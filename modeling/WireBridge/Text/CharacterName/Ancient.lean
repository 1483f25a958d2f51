/-!
# Names of characters: ancient scripts

Data of Unicode 14, in the rows that `Text.CharacterName` explains.
-/

set_option autoImplicit false

namespace WireBridge.Text

/-- Ancient alphabets, cuneiform, hieroglyphs and their like. -/
def ancientNames : List String :=
  [
    "10000 LINEAR B SYLLABLE: B008 A, B038 E, B028 I, B061 O, B010 U, B001 DA, B045 DE, B007 DI, B014 DO",
    "10009 LINEAR B SYLLABLE: B051 DU, B057 JA, B046 JE",
    "1000D LINEAR B SYLLABLE: B036 JO, B065 JU, B077 KA, B044 KE, B067 KI, B070 KO, B081 KU, B080 MA, B013 ME",
    "10016 LINEAR B SYLLABLE: B073 MI, B015 MO, B023 MU, B006 NA, B024 NE, B030 NI, B052 NO, B055 NU, B003 PA",
    "1001F LINEAR B SYLLABLE: B072 PE, B039 PI, B011 PO, B050 PU, B016 QA, B078 QE, B021 QI, B032 QO",
    "10028 LINEAR B SYLLABLE: B060 RA, B027 RE, B053 RI, B002 RO, B026 RU, B031 SA, B009 SE, B041 SI, B012 SO",
    "10031 LINEAR B SYLLABLE: B058 SU, B059 TA, B004 TE, B037 TI, B005 TO, B069 TU, B054 WA, B075 WE, B040 WI",
    "1003A LINEAR B SYLLABLE: B042 WO; 1003C LINEAR B SYLLABLE: B017 ZA, B074 ZE",
    "1003F LINEAR B SYLLABLE: B020 ZO, B025 A2, B043 A3, B085 AU, B071 DWE, B090 DWO, B048 NWA, B029 PU2",
    "10047 LINEAR B SYLLABLE: B062 PTE, B076 RA2, B033 RA3, B068 RO2, B066 TA2, B087 TWE, B091 TWO",
    "10050 LINEAR B SYMBOL: B018, B019, B022, B034, B047, B049, B056, B063, B064, B079, B082, B083, B086",
    "1005D LINEAR B SYMBOL: B089",
    "10080 LINEAR B IDEOGRAM: B100 MAN, B102 WOMAN, B104 DEER, B105 EQUID, B105F MARE, B105M STALLION",
    "10086 LINEAR B IDEOGRAM: B106F EWE, B106M RAM, B107F SHE-GOAT, B107M HE-GOAT, B108F SOW, B108M BOAR",
    "1008C LINEAR B IDEOGRAM: B109F COW, B109M BULL, B120 WHEAT, B121 BARLEY, B122 OLIVE, B123 SPICE",
    "10092 LINEAR B IDEOGRAM: B125 CYPERUS; 10093 LINEAR B MONOGRAM: B127 KAPO, B128 KANAKO",
    "10095 LINEAR B IDEOGRAM: B130 OIL, B131 WINE, B132; 10098 LINEAR B MONOGRAM: B133 AREPA, B135 MERI",
    "1009A LINEAR B IDEOGRAM: B140 BRONZE, B141 GOLD, B142, B145 WOOL, B146, B150, B151 HORN, B152, B153",
    "100A3 LINEAR B IDEOGRAM: B154; 100A4 LINEAR B MONOGRAM B156: TURO2",
    "100A5 LINEAR B IDEOGRAM: B157, B158, B159 CLOTH, B160, B161, B162 GARMENT, B163 ARMOUR, B164, B165, B166",
    "100AF LINEAR B IDEOGRAM: B167, B168, B169, B170, B171, B172, B173 MONTH, B174, B176 TREE, B177, B178",
    "100BA LINEAR B IDEOGRAM: B179, B180, B181, B182, B183, B184, B185, B189, B190, B191 HELMET",
    "100C4 LINEAR B IDEOGRAM: B220 FOOTSTOOL, B225 BATHTUB, B230 SPEAR, B231 ARROW, B232, B233 SWORD, B234",
    "100CB LINEAR B IDEOGRAM: B236, B240 WHEELED CHARIOT, B241 CHARIOT, B242 CHARIOT FRAME, B243 WHEEL, B245",
    "100D1 LINEAR B IDEOGRAM: B246; 100D2 LINEAR B MONOGRAM B247: DIPTE",
    "100D3 LINEAR B IDEOGRAM: B248, B249, B251, B252, B253, B254 DART, B255, B256, B257, B258, B259",
    "100DE LINEAR B IDEOGRAM VESSEL: B155, B200, B201, B202, B203, B204, B205, B206, B207, B208, B209, B210",
    "100EA LINEAR B IDEOGRAM VESSEL: B211, B212, B213, B214, B215, B216, B217, B218, B219, B221, B222, B226",
    "100F6 LINEAR B IDEOGRAM VESSEL: B227, B228, B229, B250, B305; 10100 AEGEAN WORD SEPARATOR: LINE, DOT",
    "10102 AEGEAN CHECK: MARK",
    "10107 AEGEAN NUMBER: ONE, TWO, THREE, FOUR, FIVE, SIX, SEVEN, EIGHT, NINE, TEN, TWENTY, THIRTY, FORTY",
    "10114 AEGEAN NUMBER: FIFTY, SIXTY, SEVENTY, EIGHTY, NINETY, ONE HUNDRED, TWO HUNDRED, THREE HUNDRED",
    "1011C AEGEAN NUMBER: FOUR HUNDRED, FIVE HUNDRED, SIX HUNDRED, SEVEN HUNDRED, EIGHT HUNDRED, NINE HUNDRED",
    "10122 AEGEAN NUMBER: ONE THOUSAND, TWO THOUSAND, THREE THOUSAND, FOUR THOUSAND, FIVE THOUSAND",
    "10127 AEGEAN NUMBER: SIX THOUSAND, SEVEN THOUSAND, EIGHT THOUSAND, NINE THOUSAND, TEN THOUSAND",
    "1012C AEGEAN NUMBER: TWENTY THOUSAND, THIRTY THOUSAND, FORTY THOUSAND, FIFTY THOUSAND, SIXTY THOUSAND",
    "10131 AEGEAN NUMBER: SEVENTY THOUSAND, EIGHTY THOUSAND, NINETY THOUSAND",
    "10137 AEGEAN WEIGHT: BASE UNIT, FIRST SUBUNIT, SECOND SUBUNIT, THIRD SUBUNIT, FOURTH SUBUNIT",
    "1013C AEGEAN: DRY MEASURE FIRST SUBUNIT, LIQUID MEASURE FIRST SUBUNIT, MEASURE SECOND SUBUNIT",
    "1013F AEGEAN: MEASURE THIRD SUBUNIT",
    "10140 GREEK ACROPHONIC ATTIC: ONE QUARTER, ONE HALF, ONE DRACHMA, FIVE, FIFTY, FIVE HUNDRED",
    "10146 GREEK ACROPHONIC ATTIC: FIVE THOUSAND, FIFTY THOUSAND, FIVE TALENTS, TEN TALENTS, FIFTY TALENTS",
    "1014B GREEK ACROPHONIC ATTIC: ONE HUNDRED TALENTS, FIVE HUNDRED TALENTS, ONE THOUSAND TALENTS",
    "1014E GREEK ACROPHONIC ATTIC: FIVE THOUSAND TALENTS, FIVE STATERS, TEN STATERS, FIFTY STATERS",
    "10152 GREEK ACROPHONIC ATTIC: ONE HUNDRED STATERS, FIVE HUNDRED STATERS, ONE THOUSAND STATERS",
    "10155 GREEK ACROPHONIC ATTIC: TEN THOUSAND STATERS, FIFTY THOUSAND STATERS, TEN MNAS",
    "10158 GREEK ACROPHONIC: HERAEUM ONE PLETHRON, THESPIAN ONE, HERMIONIAN ONE, EPIDAUREAN TWO, THESPIAN TWO",
    "1015D GREEK ACROPHONIC: CYRENAIC TWO DRACHMAS, EPIDAUREAN TWO DRACHMAS, TROEZENIAN FIVE, TROEZENIAN TEN",
    "10161 GREEK ACROPHONIC: TROEZENIAN TEN ALTERNATE FORM, HERMIONIAN TEN, MESSENIAN TEN, THESPIAN TEN",
    "10165 GREEK ACROPHONIC: THESPIAN THIRTY, TROEZENIAN FIFTY, TROEZENIAN FIFTY ALTERNATE FORM",
    "10168 GREEK ACROPHONIC: HERMIONIAN FIFTY, THESPIAN FIFTY, THESPIAN ONE HUNDRED, THESPIAN THREE HUNDRED",
    "1016C GREEK ACROPHONIC: EPIDAUREAN FIVE HUNDRED, TROEZENIAN FIVE HUNDRED, THESPIAN FIVE HUNDRED",
    "1016F GREEK ACROPHONIC: CARYSTIAN FIVE HUNDRED, NAXIAN FIVE HUNDRED, THESPIAN ONE THOUSAND",
    "10172 GREEK ACROPHONIC: THESPIAN FIVE THOUSAND, DELPHIC FIVE MNAS, STRATIAN FIFTY MNAS",
    "10175 GREEK: ONE HALF SIGN, ONE HALF SIGN ALTERNATE FORM, TWO THIRDS SIGN, THREE QUARTERS SIGN",
    "10179 GREEK: YEAR SIGN, TALENT SIGN, DRACHMA SIGN, OBOL SIGN, TWO OBOLS SIGN, THREE OBOLS SIGN",
    "1017F GREEK: FOUR OBOLS SIGN, FIVE OBOLS SIGN, METRETES SIGN, KYATHOS BASE SIGN, LITRA SIGN, OUNKIA SIGN",
    "10185 GREEK: XESTES SIGN, ARTABE SIGN, AROURA SIGN, GRAMMA SIGN, TRYBLION BASE SIGN, ZERO SIGN",
    "1018B GREEK: ONE QUARTER SIGN, SINUSOID SIGN, INDICTION SIGN; 1018E NOMISMA: SIGN",
    "10190 ROMAN: SEXTANS SIGN, UNCIA SIGN, SEMUNCIA SIGN, SEXTULA SIGN, DIMIDIA SEXTULA SIGN, SILIQUA SIGN",
    "10196 ROMAN: DENARIUS SIGN, QUINARIUS SIGN, SESTERTIUS SIGN, DUPONDIUS SIGN, AS SIGN, CENTURIAL SIGN",
    "1019C ASCIA: SYMBOL; 101A0 GREEK SYMBOL TAU: RHO",
    "101D0 PHAISTOS DISC SIGN: PEDESTRIAN, PLUMED HEAD, TATTOOED HEAD, CAPTIVE, CHILD, WOMAN, HELMET",
    "101D7 PHAISTOS DISC SIGN: GAUNTLET, TIARA, ARROW, BOW, SHIELD, CLUB, MANACLES, MATTOCK, SAW, LID",
    "101E1 PHAISTOS DISC SIGN: BOOMERANG, CARPENTRY PLANE, DOLIUM, COMB, SLING, COLUMN, BEEHIVE, SHIP, HORN",
    "101EA PHAISTOS DISC SIGN: HIDE, BULLS LEG, CAT, RAM, EAGLE, DOVE, TUNNY, BEE, PLANE TREE, VINE, PAPYRUS",
    "101F5 PHAISTOS DISC SIGN: ROSETTE, LILY, OX BACK, FLUTE, GRATER, STRAINER, SMALL AXE, WAVY BAND",
    "101FD PHAISTOS DISC SIGN: COMBINING OBLIQUE STROKE",
    "10280 LYCIAN LETTER: A, E, B, BH, G, D, I, W, Z, TH, J, K, Q, L, M, N, MM, NN, U, P, KK, R, S, T, TT, AN",
    "1029A LYCIAN LETTER: EN, H, X",
    "102A0 CARIAN LETTER: A, P2, D, L, UUU, R, LD, A2, Q, B, M, O, D2, T, SH, SH2, S, C-18, U, NN, X, N, TT2",
    "102B7 CARIAN LETTER: P, SS, I, E, UUUU, K, K2, ND, UU, G, G2, ST, ST2, NG, II, C-39, TT, UUU2, RR, MB",
    "102CB CARIAN LETTER: MB2, MB3, MB4, LD2, E2, UUU3; 102E0 COPTIC EPACT THOUSANDS: MARK",
    "102E1 COPTIC EPACT DIGIT: ONE, TWO, THREE, FOUR, FIVE, SIX, SEVEN, EIGHT, NINE",
    "102EA COPTIC EPACT NUMBER: TEN, TWENTY, THIRTY, FORTY, FIFTY, SIXTY, SEVENTY, EIGHTY, NINETY",
    "102F3 COPTIC EPACT NUMBER: ONE HUNDRED, TWO HUNDRED, THREE HUNDRED, FOUR HUNDRED, FIVE HUNDRED",
    "102F8 COPTIC EPACT NUMBER: SIX HUNDRED, SEVEN HUNDRED, EIGHT HUNDRED, NINE HUNDRED",
    "10300 OLD ITALIC LETTER: A, BE, KE, DE, E, VE, ZE, HE, THE, I, KA, EL, EM, EN, ESH, O, PE, SHE, KU, ER",
    "10314 OLD ITALIC LETTER: ES, TE, U, EKS, PHE, KHE, EF, ERS, CHE, II, UU, ESS",
    "10320 OLD ITALIC NUMERAL: ONE, FIVE, TEN, FIFTY; 1032D OLD ITALIC LETTER: YE, NORTHERN TSE, SOUTHERN TSE",
    "10330 GOTHIC LETTER: AHSA, BAIRKAN, GIBA, DAGS, AIHVUS, QAIRTHRA, IUJA, HAGL, THIUTH, EIS, KUSMA, LAGUS",
    "1033C GOTHIC LETTER: MANNA, NAUTHS, JER, URUS, PAIRTHRA, NINETY, RAIDA, SAUIL, TEIWS, WINJA, FAIHU",
    "10347 GOTHIC LETTER: IGGWS, HWAIR, OTHAL, NINE HUNDRED",
    "10350 OLD PERMIC LETTER: AN, BUR, GAI, DOI, E, ZHOI, DZHOI, ZATA, DZITA, I, KOKE, LEI, MENOE, NENOE",
    "1035E OLD PERMIC LETTER: VOOI, PEEI, REI, SII, TAI, U, CHERY, SHOOI, SHCHOOI, YRY, YERU, O, OO, EF, HA",
    "1036D OLD PERMIC LETTER: TSIU, VER, YER, YERI, YAT, IE, YU, YA, IA",
    "10376 COMBINING OLD PERMIC LETTER: AN, DOI, ZATA, NENOE, SII",
    "10380 UGARITIC LETTER: ALPA, BETA, GAMLA, KHA, DELTA, HO, WO, ZETA, HOTA, TET, YOD, KAF, SHIN, LAMDA",
    "1038E UGARITIC LETTER: MEM, DHAL, NUN, ZU, SAMKA, AIN, PU, SADE, QOPA, RASHA, THANNA, GHAIN, TO, I, U",
    "1039D UGARITIC LETTER: SSU; 1039F UGARITIC WORD: DIVIDER",
    "103A0 OLD PERSIAN SIGN: A, I, U, KA, KU, GA, GU, XA, CA, JA, JI, TA, TU, DA, DI, DU, THA, PA, BA, FA, NA",
    "103B5 OLD PERSIAN SIGN: NU, MA, MI, MU, YA, VA, VI, RA, RU, LA, SA, ZA, SHA, SSA, HA",
    "103C8 OLD PERSIAN SIGN: AURAMAZDAA, AURAMAZDAA-2, AURAMAZDAAHA, XSHAAYATHIYA, DAHYAAUSH, DAHYAAUSH-2",
    "103CE OLD PERSIAN SIGN: BAGA, BUUMISH; 103D0 OLD PERSIAN WORD: DIVIDER",
    "103D1 OLD PERSIAN NUMBER: ONE, TWO, TEN, TWENTY, HUNDRED",
    "10400 DESERET CAPITAL LETTER: LONG I, LONG E, LONG A, LONG AH, LONG O, LONG OO, SHORT I, SHORT E",
    "10408 DESERET CAPITAL LETTER: SHORT A, SHORT AH, SHORT O, SHORT OO, AY, OW, WU, YEE, H, PEE, BEE, TEE",
    "10414 DESERET CAPITAL LETTER: DEE, CHEE, JEE, KAY, GAY, EF, VEE, ETH, THEE, ES, ZEE, ESH, ZHEE, ER, EL",
    "10423 DESERET CAPITAL LETTER: EM, EN, ENG, OI, EW",
    "10428 DESERET SMALL LETTER: LONG I, LONG E, LONG A, LONG AH, LONG O, LONG OO, SHORT I, SHORT E, SHORT A",
    "10431 DESERET SMALL LETTER: SHORT AH, SHORT O, SHORT OO, AY, OW, WU, YEE, H, PEE, BEE, TEE, DEE, CHEE",
    "1043E DESERET SMALL LETTER: JEE, KAY, GAY, EF, VEE, ETH, THEE, ES, ZEE, ESH, ZHEE, ER, EL, EM, EN, ENG",
    "1044E DESERET SMALL LETTER: OI, EW",
    "10450 SHAVIAN LETTER: PEEP, TOT, KICK, FEE, THIGH, SO, SURE, CHURCH, YEA, HUNG, BIB, DEAD, GAG, VOW",
    "1045E SHAVIAN LETTER: THEY, ZOO, MEASURE, JUDGE, WOE, HA-HA, LOLL, MIME, IF, EGG, ASH, ADO, ON, WOOL",
    "1046C SHAVIAN LETTER: OUT, AH, ROAR, NUN, EAT, AGE, ICE, UP, OAK, OOZE, OIL, AWE, ARE, OR, AIR, ERR",
    "1047C SHAVIAN LETTER: ARRAY, EAR, IAN, YEW",
    "10480 OSMANYA LETTER: ALEF, BA, TA, JA, XA, KHA, DEEL, RA, SA, SHIIN, DHA, CAYN, GA, FA, QAAF, KAAF",
    "10490 OSMANYA LETTER: LAAN, MIIN, NUUN, WAW, HA, YA, A, E, I, O, U, AA, EE, OO",
    "104A0 OSMANYA DIGIT: ZERO, ONE, TWO, THREE, FOUR, FIVE, SIX, SEVEN, EIGHT, NINE",
    "104B0 OSAGE CAPITAL LETTER: A, AI, AIN, AH, BRA, CHA, EHCHA, E, EIN, HA, HYA, I, KA, EHKA, KYA, LA, MA",
    "104C1 OSAGE CAPITAL LETTER: NA, O, OIN, PA, EHPA, SA, SHA, TA, EHTA, TSA, EHTSA, TSHA, DHA, U, WA, KHA",
    "104D1 OSAGE CAPITAL LETTER: GHA, ZA, ZHA",
    "104D8 OSAGE SMALL LETTER: A, AI, AIN, AH, BRA, CHA, EHCHA, E, EIN, HA, HYA, I, KA, EHKA, KYA, LA, MA, NA",
    "104EA OSAGE SMALL LETTER: O, OIN, PA, EHPA, SA, SHA, TA, EHTA, TSA, EHTSA, TSHA, DHA, U, WA, KHA, GHA",
    "104FA OSAGE SMALL LETTER: ZA, ZHA",
    "10500 ELBASAN LETTER: A, BE, CE, CHE, DE, NDE, DHE, EI, E, FE, GE, GJE, HE, I, JE, KE, LE, LLE, ME, NE",
    "10514 ELBASAN LETTER: NA, NJE, O, PE, QE, RE, RRE, SE, SHE, TE, THE, U, VE, XE, Y, ZE, ZHE, GHE, GHAMMA",
    "10527 ELBASAN LETTER: KHE",
    "10530 CAUCASIAN ALBANIAN LETTER: ALT, BET, GIM, DAT, EB, ZARL, EYN, ZHIL, TAS, CHA, YOWD, ZHA, IRB, SHA",
    "1053E CAUCASIAN ALBANIAN LETTER: LAN, INYA, XEYN, DYAN, CAR, JHOX, KAR, LYIT, HEYT, QAY, AOR, CHOY, CHI",
    "1054B CAUCASIAN ALBANIAN LETTER: CYAY, MAQ, QAR, NOWC, DZYAY, SHAK, JAYN, ON, TYAY, FAM, DZAY, CHAT, PEN",
    "10558 CAUCASIAN ALBANIAN LETTER: GHEYS, RAT, SEYK, VEYZ, TIWR, SHOY, IWN, CYAW, CAYN, YAYD, PIWR, KIW",
    "1056F CAUCASIAN ALBANIAN CITATION: MARK",
    "10570 VITHKUQI CAPITAL LETTER: A, BBE, BE, CE, CHE, DE, DHE, EI, E, FE, GA",
    "1057C VITHKUQI CAPITAL LETTER: HA, HHA, I, IJE, JE, KA, LA, LLA, ME, NE, NJE, O, PE, QA, RE",
    "1058C VITHKUQI CAPITAL LETTER: SE, SHE, TE, THE, U, VE, XE; 10594 VITHKUQI CAPITAL LETTER: Y, ZE",
    "10597 VITHKUQI SMALL LETTER: A, BBE, BE, CE, CHE, DE, DHE, EI, E, FE, GA",
    "105A3 VITHKUQI SMALL LETTER: HA, HHA, I, IJE, JE, KA, LA, LLA, ME, NE, NJE, O, PE, QA, RE",
    "105B3 VITHKUQI SMALL LETTER: SE, SHE, TE, THE, U, VE, XE; 105BB VITHKUQI SMALL LETTER: Y, ZE",
    "10600 LINEAR A SIGN: AB001, AB002, AB003, AB004, AB005, AB006, AB007, AB008, AB009, AB010, AB011",
    "1060B LINEAR A SIGN: AB013, AB016, AB017, AB020, AB021, AB021F, AB021M, AB022, AB022F, AB022M, AB023",
    "10616 LINEAR A SIGN: AB023M, AB024, AB026, AB027, AB028, A028B, AB029, AB030, AB031, AB034, AB037, AB038",
    "10622 LINEAR A SIGN: AB039, AB040, AB041, AB044, AB045, AB046, AB047, AB048, AB049, AB050, AB051, AB053",
    "1062E LINEAR A SIGN: AB054, AB055, AB056, AB057, AB058, AB059, AB060, AB061, AB065, AB066, AB067, AB069",
    "1063A LINEAR A SIGN: AB070, AB073, AB074, AB076, AB077, AB078, AB079, AB080, AB081, AB082, AB085, AB086",
    "10646 LINEAR A SIGN: AB087, A100-102, AB118, AB120, A120B, AB122, AB123, AB131A, AB131B, A131C, AB164",
    "10651 LINEAR A SIGN: AB171, AB180, AB188, AB191, A301, A302, A303, A304, A305, A306, A307, A308, A309A",
    "1065E LINEAR A SIGN: A309B, A309C, A310, A311, A312, A313A, A313B, A313C, A314, A315, A316, A317, A318",
    "1066B LINEAR A SIGN: A319, A320, A321, A322, A323, A324, A325, A326, A327, A328, A329, A330, A331, A332",
    "10679 LINEAR A SIGN: A333, A334, A335, A336, A337, A338, A339, A340, A341, A342, A343, A344, A345, A346",
    "10687 LINEAR A SIGN: A347, A348, A349, A350, A351, A352, A353, A354, A355, A356, A357, A358, A359, A360",
    "10695 LINEAR A SIGN: A361, A362, A363, A364, A365, A366, A367, A368, A369, A370, A371, A400-VAS",
    "106A1 LINEAR A SIGN: A401-VAS, A402-VAS, A403-VAS, A404-VAS, A405-VAS, A406-VAS, A407-VAS, A408-VAS",
    "106A9 LINEAR A SIGN: A409-VAS, A410-VAS, A411-VAS, A412-VAS, A413-VAS, A414-VAS, A415-VAS, A416-VAS",
    "106B1 LINEAR A SIGN: A417-VAS, A418-VAS, A501, A502, A503, A504, A505, A506, A508, A509, A510, A511",
    "106BD LINEAR A SIGN: A512, A513, A515, A516, A520, A521, A523, A524, A525, A526, A527, A528, A529, A530",
    "106CB LINEAR A SIGN: A531, A532, A534, A535, A536, A537, A538, A539, A540, A541, A542, A545, A547, A548",
    "106D9 LINEAR A SIGN: A549, A550, A551, A552, A553, A554, A555, A556, A557, A559, A563, A564, A565, A566",
    "106E7 LINEAR A SIGN: A568, A569, A570, A571, A572, A573, A574, A575, A576, A577, A578, A579, A580, A581",
    "106F5 LINEAR A SIGN: A582, A583, A584, A585, A586, A587, A588, A589, A591, A592, A594, A595, A596, A598",
    "10703 LINEAR A SIGN: A600, A601, A602, A603, A604, A606, A608, A609, A610, A611, A612, A613, A614, A615",
    "10711 LINEAR A SIGN: A616, A617, A618, A619, A620, A621, A622, A623, A624, A626, A627, A628, A629, A634",
    "1071F LINEAR A SIGN: A637, A638, A640, A642, A643, A644, A645, A646, A648, A649, A651, A652, A653, A654",
    "1072D LINEAR A SIGN: A655, A656, A657, A658, A659, A660, A661, A662, A663, A664",
    "10740 LINEAR A SIGN: A701 A, A702 B, A703 D, A704 E, A705 F, A706 H, A707 J, A708 K, A709 L, A709-2 L2",
    "1074A LINEAR A SIGN: A709-3 L3, A709-4 L4, A709-6 L6, A710 W, A711 X, A712 Y, A713 OMEGA, A714 ABB",
    "10752 LINEAR A SIGN: A715 BB, A717 DD, A726 EYYY, A732 JE",
    "10760 LINEAR A SIGN: A800, A801, A802, A803, A804, A805, A806, A807",
    "10780 MODIFIER LETTER: SMALL CAPITAL AA, SUPERSCRIPT TRIANGULAR COLON, SUPERSCRIPT HALF TRIANGULAR COLON",
    "10783 MODIFIER LETTER: SMALL AE, SMALL CAPITAL B, SMALL B WITH HOOK",
    "10787 MODIFIER LETTER SMALL: DZ DIGRAPH, DZ DIGRAPH WITH RETROFLEX HOOK, DZ DIGRAPH WITH CURL",
    "1078A MODIFIER LETTER SMALL: DEZH DIGRAPH, D WITH TAIL, D WITH HOOK, D WITH HOOK AND TAIL, REVERSED E",
    "1078F MODIFIER LETTER SMALL: CLOSED REVERSED OPEN E, FENG DIGRAPH, RAMS HORN, CAPITAL G, G WITH HOOK",
    "10794 MODIFIER LETTER SMALL: CAPITAL G WITH HOOK, H WITH STROKE, CAPITAL H, HENG WITH HOOK",
    "10798 MODIFIER LETTER SMALL: DOTLESS J WITH STROKE AND HOOK, LS DIGRAPH, LZ DIGRAPH, L WITH BELT",
    "1079C MODIFIER LETTER SMALL: CAPITAL L WITH BELT, L WITH RETROFLEX HOOK AND BELT, LEZH",
    "1079F MODIFIER LETTER SMALL: LEZH WITH RETROFLEX HOOK, TURNED Y, TURNED Y WITH BELT, O WITH STROKE",
    "107A3 MODIFIER LETTER SMALL: CAPITAL OE, CLOSED OMEGA, Q, TURNED R WITH LONG LEG",
    "107A7 MODIFIER LETTER SMALL: TURNED R WITH LONG LEG AND RETROFLEX HOOK, R WITH TAIL, R WITH FISHHOOK",
    "107AA MODIFIER LETTER SMALL: CAPITAL R, TC DIGRAPH WITH CURL, TS DIGRAPH, TS DIGRAPH WITH RETROFLEX HOOK",
    "107AE MODIFIER LETTER SMALL: TESH DIGRAPH, T WITH RETROFLEX HOOK, V WITH RIGHT HOOK",
    "107B2 MODIFIER LETTER: SMALL CAPITAL Y, GLOTTAL STOP WITH STROKE, REVERSED GLOTTAL STOP WITH STROKE",
    "107B5 MODIFIER LETTER: BILABIAL CLICK, DENTAL CLICK, LATERAL CLICK, ALVEOLAR CLICK",
    "107B9 MODIFIER LETTER: RETROFLEX CLICK WITH RETROFLEX HOOK, SMALL S WITH CURL",
    "10800 CYPRIOT SYLLABLE: A, E, I, O, U, JA; 10808 CYPRIOT SYLLABLE: JO",
    "1080A CYPRIOT SYLLABLE: KA, KE, KI, KO, KU, LA, LE, LI, LO, LU, MA, ME, MI, MO, MU, NA, NE, NI, NO, NU",
    "1081E CYPRIOT SYLLABLE: PA, PE, PI, PO, PU, RA, RE, RI, RO, RU, SA, SE, SI, SO, SU, TA, TE, TI, TO, TU",
    "10832 CYPRIOT SYLLABLE: WA, WE, WI, WO; 10837 CYPRIOT SYLLABLE: XA, XE; 1083C CYPRIOT SYLLABLE: ZA",
    "1083F CYPRIOT SYLLABLE: ZO",
    "10840 IMPERIAL ARAMAIC LETTER: ALEPH, BETH, GIMEL, DALETH, HE, WAW, ZAYIN, HETH, TETH, YODH, KAPH",
    "1084B IMPERIAL ARAMAIC LETTER: LAMEDH, MEM, NUN, SAMEKH, AYIN, PE, SADHE, QOPH, RESH, SHIN, TAW",
    "10857 IMPERIAL ARAMAIC SECTION: SIGN",
    "10858 IMPERIAL ARAMAIC NUMBER: ONE, TWO, THREE, TEN, TWENTY, ONE HUNDRED, ONE THOUSAND, TEN THOUSAND",
    "10860 PALMYRENE LETTER: ALEPH, BETH, GIMEL, DALETH, HE, WAW, ZAYIN, HETH, TETH, YODH, KAPH, LAMEDH, MEM",
    "1086D PALMYRENE LETTER: FINAL NUN, NUN, SAMEKH, AYIN, PE, SADHE, QOPH, RESH, SHIN, TAW",
    "10877 PALMYRENE: LEFT-POINTING FLEURON, RIGHT-POINTING FLEURON",
    "10879 PALMYRENE NUMBER: ONE, TWO, THREE, FOUR, FIVE, TEN, TWENTY",
    "10880 NABATAEAN LETTER: FINAL ALEPH, ALEPH, FINAL BETH, BETH, GIMEL, DALETH, FINAL HE, HE, WAW, ZAYIN",
    "1088A NABATAEAN LETTER: HETH, TETH, FINAL YODH, YODH, FINAL KAPH, KAPH, FINAL LAMEDH, LAMEDH, FINAL MEM",
    "10893 NABATAEAN LETTER: MEM, FINAL NUN, NUN, SAMEKH, AYIN, PE, SADHE, QOPH, RESH, FINAL SHIN, SHIN, TAW",
    "108A7 NABATAEAN NUMBER: ONE, TWO, THREE, FOUR; 108AB NABATAEAN CRUCIFORM NUMBER: FOUR",
    "108AC NABATAEAN NUMBER: FIVE, TEN, TWENTY, ONE HUNDRED",
    "108E0 HATRAN LETTER: ALEPH, BETH, GIMEL, DALETH-RESH, HE, WAW, ZAYN, HETH, TETH, YODH, KAPH, LAMEDH, MEM",
    "108ED HATRAN LETTER: NUN, SAMEKH, AYN, PE, SADHE, QOPH; 108F4 HATRAN LETTER: SHIN, TAW",
    "108FB HATRAN NUMBER: ONE, FIVE, TEN, TWENTY, ONE HUNDRED",
    "10900 PHOENICIAN LETTER: ALF, BET, GAML, DELT, HE, WAU, ZAI, HET, TET, YOD, KAF, LAMD, MEM, NUN, SEMK",
    "1090F PHOENICIAN LETTER: AIN, PE, SADE, QOF, ROSH, SHIN, TAU",
    "10916 PHOENICIAN NUMBER: ONE, TEN, TWENTY, ONE HUNDRED, TWO, THREE; 1091F PHOENICIAN WORD: SEPARATOR",
    "10920 LYDIAN LETTER: A, B, G, D, E, V, I, Y, K, L, M, N, O, R, SS, T, U, F, Q, S, TT, AN, EN, LY, NN, C",
    "1093F LYDIAN TRIANGULAR: MARK",
    "10980 MEROITIC HIEROGLYPHIC LETTER: A, E, I, O, YA, WA, BA, BA-2, PA, MA, NA, NA-2, NE, NE-2, RA, RA-2",
    "10990 MEROITIC HIEROGLYPHIC LETTER: LA, KHA, HHA, SA, SA-2, SE, KA, QA, TA, TA-2, TE, TE-2, TO, DA",
    "1099E MEROITIC HIEROGLYPHIC SYMBOL: VIDJ, VIDJ-2",
    "109A0 MEROITIC CURSIVE LETTER: A, E, I, O, YA, WA, BA, PA, MA, NA, NE, RA, LA, KHA, HHA, SA, ARCHAIC SA",
    "109B1 MEROITIC CURSIVE LETTER: SE, KA, QA, TA, TE, TO, DA",
    "109BC MEROITIC CURSIVE: FRACTION ELEVEN TWELFTHS, FRACTION ONE HALF, LOGOGRAM RMT, LOGOGRAM IMN",
    "109C0 MEROITIC CURSIVE NUMBER: ONE, TWO, THREE, FOUR, FIVE, SIX, SEVEN, EIGHT, NINE, TEN, TWENTY, THIRTY",
    "109CC MEROITIC CURSIVE NUMBER: FORTY, FIFTY, SIXTY, SEVENTY",
    "109D2 MEROITIC CURSIVE NUMBER: ONE HUNDRED, TWO HUNDRED, THREE HUNDRED, FOUR HUNDRED, FIVE HUNDRED",
    "109D7 MEROITIC CURSIVE NUMBER: SIX HUNDRED, SEVEN HUNDRED, EIGHT HUNDRED, NINE HUNDRED, ONE THOUSAND",
    "109DC MEROITIC CURSIVE NUMBER: TWO THOUSAND, THREE THOUSAND, FOUR THOUSAND, FIVE THOUSAND, SIX THOUSAND",
    "109E1 MEROITIC CURSIVE NUMBER: SEVEN THOUSAND, EIGHT THOUSAND, NINE THOUSAND, TEN THOUSAND",
    "109E5 MEROITIC CURSIVE NUMBER: TWENTY THOUSAND, THIRTY THOUSAND, FORTY THOUSAND, FIFTY THOUSAND",
    "109E9 MEROITIC CURSIVE NUMBER: SIXTY THOUSAND, SEVENTY THOUSAND, EIGHTY THOUSAND, NINETY THOUSAND",
    "109ED MEROITIC CURSIVE NUMBER: ONE HUNDRED THOUSAND, TWO HUNDRED THOUSAND, THREE HUNDRED THOUSAND",
    "109F0 MEROITIC CURSIVE NUMBER: FOUR HUNDRED THOUSAND, FIVE HUNDRED THOUSAND, SIX HUNDRED THOUSAND",
    "109F3 MEROITIC CURSIVE NUMBER: SEVEN HUNDRED THOUSAND, EIGHT HUNDRED THOUSAND, NINE HUNDRED THOUSAND",
    "109F6 MEROITIC CURSIVE FRACTION: ONE TWELFTH, TWO TWELFTHS, THREE TWELFTHS, FOUR TWELFTHS, FIVE TWELFTHS",
    "109FB MEROITIC CURSIVE FRACTION: SIX TWELFTHS, SEVEN TWELFTHS, EIGHT TWELFTHS, NINE TWELFTHS",
    "109FF MEROITIC CURSIVE FRACTION: TEN TWELFTHS; 10A00 KHAROSHTHI LETTER: A",
    "10A01 KHAROSHTHI VOWEL SIGN: I, U, VOCALIC R; 10A05 KHAROSHTHI VOWEL SIGN: E, O",
    "10A0C KHAROSHTHI: VOWEL LENGTH MARK, SIGN DOUBLE RING BELOW, SIGN ANUSVARA, SIGN VISARGA",
    "10A10 KHAROSHTHI LETTER: KA, KHA, GA, GHA; 10A15 KHAROSHTHI LETTER: CA, CHA, JA",
    "10A19 KHAROSHTHI LETTER: NYA, TTA, TTHA, DDA, DDHA, NNA, TA, THA, DA, DHA, NA, PA, PHA, BA, BHA, MA, YA",
    "10A2A KHAROSHTHI LETTER: RA, LA, VA, SHA, SSA, SA, ZA, HA, KKA, TTTHA, TTTA, VHA",
    "10A38 KHAROSHTHI SIGN: BAR ABOVE, CAUDA, DOT BELOW",
    "10A3F KHAROSHTHI: VIRAMA, DIGIT ONE, DIGIT TWO, DIGIT THREE, DIGIT FOUR, NUMBER TEN, NUMBER TWENTY",
    "10A46 KHAROSHTHI: NUMBER ONE HUNDRED, NUMBER ONE THOUSAND, FRACTION ONE HALF",
    "10A50 KHAROSHTHI PUNCTUATION: DOT, SMALL CIRCLE, CIRCLE, CRESCENT BAR, MANGALAM, LOTUS, DANDA",
    "10A57 KHAROSHTHI PUNCTUATION: DOUBLE DANDA, LINES",
    "10A60 OLD SOUTH ARABIAN LETTER: HE, LAMEDH, HETH, MEM, QOPH, WAW, SHIN, RESH, BETH, TAW, SAT, KAPH, NUN",
    "10A6D OLD SOUTH ARABIAN LETTER: KHETH, SADHE, SAMEKH, FE, ALEF, AYN, DHADHE, GIMEL, DALETH, GHAYN, TETH",
    "10A78 OLD SOUTH ARABIAN LETTER: ZAYN, DHALETH, YODH, THAW, THETH",
    "10A7D OLD SOUTH ARABIAN: NUMBER ONE, NUMBER FIFTY, NUMERIC INDICATOR",
    "10A80 OLD NORTH ARABIAN LETTER: HEH, LAM, HAH, MEEM, QAF, WAW, ES-2, REH, BEH, TEH, ES-1, KAF, NOON",
    "10A8D OLD NORTH ARABIAN LETTER: KHAH, SAD, ES-3, FEH, ALEF, AIN, DAD, GEEM, DAL, GHAIN, TAH, ZAIN, THAL",
    "10A9A OLD NORTH ARABIAN LETTER: YEH, THEH, ZAH; 10A9D OLD NORTH ARABIAN NUMBER: ONE, TEN, TWENTY",
    "10AC0 MANICHAEAN LETTER: ALEPH, BETH, BHETH, GIMEL, GHIMEL, DALETH, HE, WAW; 10AC8 MANICHAEAN SIGN: UD",
    "10AC9 MANICHAEAN LETTER: ZAYIN, ZHAYIN, JAYIN, JHAYIN, HETH, TETH, YODH, KAPH, XAPH, KHAPH, LAMEDH",
    "10AD4 MANICHAEAN LETTER: DHAMEDH, THAMEDH, MEM, NUN, SAMEKH, AYIN, AAYIN, PE, FE, SADHE, QOPH, XOPH",
    "10AE0 MANICHAEAN LETTER: QHOPH, RESH, SHIN, SSHIN, TAW; 10AE5 MANICHAEAN ABBREVIATION MARK: ABOVE, BELOW",
    "10AEB MANICHAEAN NUMBER: ONE, FIVE, TEN, TWENTY, ONE HUNDRED",
    "10AF0 MANICHAEAN PUNCTUATION: STAR, FLEURON, DOUBLE DOT WITHIN DOT, DOT WITHIN DOT, DOT, TWO DOTS",
    "10AF6 MANICHAEAN PUNCTUATION: LINE FILLER",
    "10B00 AVESTAN LETTER: A, AA, AO, AAO, AN, AAN, AE, AEE, E, EE, O, OO, I, II, U, UU, KE, XE, XYE, XVE, GE",
    "10B15 AVESTAN LETTER: GGE, GHE, CE, JE, TE, THE, DE, DHE, TTE, PE, FE, BE, BHE, NGE, NGYE, NGVE, NE, NYE",
    "10B27 AVESTAN LETTER: NNE, ME, HME, YYE, YE, VE, RE, LE, SE, ZE, SHE, ZHE, SHYE, SSHE, HE",
    "10B39: AVESTAN ABBREVIATION MARK, TINY TWO DOTS OVER ONE DOT PUNCTUATION",
    "10B3B: SMALL TWO DOTS OVER ONE DOT PUNCTUATION",
    "10B3C LARGE: TWO DOTS OVER ONE DOT PUNCTUATION, ONE DOT OVER TWO DOTS PUNCTUATION",
    "10B3E LARGE: TWO RINGS OVER ONE RING PUNCTUATION, ONE RING OVER TWO RINGS PUNCTUATION",
    "10B40 INSCRIPTIONAL PARTHIAN LETTER: ALEPH, BETH, GIMEL, DALETH, HE, WAW, ZAYIN, HETH, TETH, YODH, KAPH",
    "10B4B INSCRIPTIONAL PARTHIAN LETTER: LAMEDH, MEM, NUN, SAMEKH, AYIN, PE, SADHE, QOPH, RESH, SHIN, TAW",
    "10B58 INSCRIPTIONAL PARTHIAN NUMBER: ONE, TWO, THREE, FOUR, TEN, TWENTY, ONE HUNDRED, ONE THOUSAND",
    "10B60 INSCRIPTIONAL PAHLAVI LETTER: ALEPH, BETH, GIMEL, DALETH, HE, WAW-AYIN-RESH, ZAYIN, HETH, TETH",
    "10B69 INSCRIPTIONAL PAHLAVI LETTER: YODH, KAPH, LAMEDH, MEM-QOPH, NUN, SAMEKH, PE, SADHE, SHIN, TAW",
    "10B78 INSCRIPTIONAL PAHLAVI NUMBER: ONE, TWO, THREE, FOUR, TEN, TWENTY, ONE HUNDRED, ONE THOUSAND",
    "10B80 PSALTER PAHLAVI LETTER: ALEPH, BETH, GIMEL, DALETH, HE, WAW-AYIN-RESH, ZAYIN, HETH, YODH, KAPH",
    "10B8A PSALTER PAHLAVI LETTER: LAMEDH, MEM-QOPH, NUN, SAMEKH, PE, SADHE, SHIN, TAW",
    "10B99 PSALTER PAHLAVI: SECTION MARK, TURNED SECTION MARK, FOUR DOTS WITH CROSS, FOUR DOTS WITH DOT",
    "10BA9 PSALTER PAHLAVI NUMBER: ONE, TWO, THREE, FOUR, TEN, TWENTY, ONE HUNDRED",
    "10C00 OLD TURKIC LETTER: ORKHON A, YENISEI A, YENISEI AE, ORKHON I, YENISEI I, YENISEI E, ORKHON O",
    "10C07 OLD TURKIC LETTER: ORKHON OE, YENISEI OE, ORKHON AB, YENISEI AB, ORKHON AEB, YENISEI AEB",
    "10C0D OLD TURKIC LETTER: ORKHON AG, YENISEI AG, ORKHON AEG, YENISEI AEG, ORKHON AD, YENISEI AD",
    "10C13 OLD TURKIC LETTER: ORKHON AED, ORKHON EZ, YENISEI EZ, ORKHON AY, YENISEI AY, ORKHON AEY",
    "10C19 OLD TURKIC LETTER: YENISEI AEY, ORKHON AEK, YENISEI AEK, ORKHON OEK, YENISEI OEK, ORKHON AL",
    "10C1F OLD TURKIC LETTER: YENISEI AL, ORKHON AEL, ORKHON ELT, ORKHON EM, ORKHON AN, ORKHON AEN",
    "10C25 OLD TURKIC LETTER: YENISEI AEN, ORKHON ENT, YENISEI ENT, ORKHON ENC, YENISEI ENC, ORKHON ENY",
    "10C2B OLD TURKIC LETTER: YENISEI ENY, YENISEI ANG, ORKHON ENG, YENISEI AENG, ORKHON EP, ORKHON OP",
    "10C31 OLD TURKIC LETTER: ORKHON IC, ORKHON EC, YENISEI EC, ORKHON AQ, YENISEI AQ, ORKHON IQ, YENISEI IQ",
    "10C38 OLD TURKIC LETTER: ORKHON OQ, YENISEI OQ, ORKHON AR, YENISEI AR, ORKHON AER, ORKHON AS, ORKHON AES",
    "10C3F OLD TURKIC LETTER: ORKHON ASH, YENISEI ASH, ORKHON ESH, YENISEI ESH, ORKHON AT, YENISEI AT",
    "10C45 OLD TURKIC LETTER: ORKHON AET, YENISEI AET, ORKHON OT, ORKHON BASH",
    "10C80 OLD HUNGARIAN CAPITAL LETTER: A, AA, EB, AMB, EC, ENC, ECS, ED, AND, E, CLOSE E, EE, EF, EG, EGY",
    "10C8F OLD HUNGARIAN CAPITAL LETTER: EH, I, II, EJ, EK, AK, UNK, EL, ELY, EM, EN, ENY, O, OO",
    "10C9D OLD HUNGARIAN CAPITAL LETTER: NIKOLSBURG OE, RUDIMENTA OE, OEE, EP, EMP, ER, SHORT ER, ES, ESZ, ET",
    "10CA7 OLD HUNGARIAN CAPITAL LETTER: ENT, ETY, ECH, U, UU, NIKOLSBURG UE, RUDIMENTA UE, EV, EZ, EZS",
    "10CB1 OLD HUNGARIAN CAPITAL LETTER: ENT-SHAPED SIGN, US",
    "10CC0 OLD HUNGARIAN SMALL LETTER: A, AA, EB, AMB, EC, ENC, ECS, ED, AND, E, CLOSE E, EE, EF, EG, EGY, EH",
    "10CD0 OLD HUNGARIAN SMALL LETTER: I, II, EJ, EK, AK, UNK, EL, ELY, EM, EN, ENY, O, OO, NIKOLSBURG OE",
    "10CDE OLD HUNGARIAN SMALL LETTER: RUDIMENTA OE, OEE, EP, EMP, ER, SHORT ER, ES, ESZ, ET, ENT, ETY, ECH",
    "10CEA OLD HUNGARIAN SMALL LETTER: U, UU, NIKOLSBURG UE, RUDIMENTA UE, EV, EZ, EZS, ENT-SHAPED SIGN, US",
    "10CFA OLD HUNGARIAN NUMBER: ONE, FIVE, TEN, FIFTY, ONE HUNDRED, ONE THOUSAND",
    "10D00 HANIFI ROHINGYA LETTER: A, BA, PA, TA, TTA, JA, CA, HA, KHA, FA, DA, DDA, RA, RRA, ZA, SA, SHA, KA",
    "10D12 HANIFI ROHINGYA LETTER: GA, LA, MA, NA, WA, KINNA WA, YA, KINNA YA, NGA, NYA, VA",
    "10D1D HANIFI ROHINGYA VOWEL: A, I, U, E, O",
    "10D22 HANIFI ROHINGYA: MARK SAKIN, MARK NA KHONNA, SIGN HARBAHAY, SIGN TAHALA, SIGN TANA, SIGN TASSI",
    "10D30 HANIFI ROHINGYA DIGIT: ZERO, ONE, TWO, THREE, FOUR, FIVE, SIX, SEVEN, EIGHT, NINE",
    "10E60 RUMI DIGIT: ONE, TWO, THREE, FOUR, FIVE, SIX, SEVEN, EIGHT, NINE",
    "10E69 RUMI NUMBER: TEN, TWENTY, THIRTY, FORTY, FIFTY, SIXTY, SEVENTY, EIGHTY, NINETY, ONE HUNDRED",
    "10E73 RUMI NUMBER: TWO HUNDRED, THREE HUNDRED, FOUR HUNDRED, FIVE HUNDRED, SIX HUNDRED, SEVEN HUNDRED",
    "10E79 RUMI NUMBER: EIGHT HUNDRED, NINE HUNDRED",
    "10E7B RUMI FRACTION: ONE HALF, ONE QUARTER, ONE THIRD, TWO THIRDS",
    "10E80 YEZIDI LETTER: ELIF, BE, PE, PHE, THE, SE, CIM, CHIM, CHHIM, HHA, XA, DAL, ZAL, RA, RHA, ZA, JA",
    "10E91 YEZIDI LETTER: SIN, SHIN, SAD, DAD, TA, ZE, EYN, XHEYN, FA, VA, VA ALTERNATE FORM, QAF, KAF, KHAF",
    "10E9F YEZIDI LETTER: GAF, LAM, MIM, NUN, UM, WAW, OW, EW, HAY, YOT, ET",
    "10EAB YEZIDI: COMBINING HAMZA MARK, COMBINING MADDA MARK, HYPHENATION MARK",
    "10EB0 YEZIDI LETTER: LAM WITH DOT ABOVE, YOT WITH CIRCUMFLEX ABOVE",
    "10F00 OLD SOGDIAN LETTER: ALEPH, FINAL ALEPH, BETH, FINAL BETH, GIMEL, HE, FINAL HE, WAW, ZAYIN, HETH",
    "10F0A OLD SOGDIAN LETTER: YODH, KAPH, LAMEDH, MEM, NUN, FINAL NUN, FINAL NUN WITH VERTICAL TAIL, SAMEKH",
    "10F12 OLD SOGDIAN LETTER: AYIN, ALTERNATE AYIN, PE, SADHE, FINAL SADHE, FINAL SADHE WITH VERTICAL TAIL",
    "10F18 OLD SOGDIAN LETTER: RESH-AYIN-DALETH, SHIN, TAW, FINAL TAW, FINAL TAW WITH VERTICAL TAIL",
    "10F1D OLD SOGDIAN NUMBER: ONE, TWO, THREE, FOUR, FIVE, TEN, TWENTY, THIRTY, ONE HUNDRED",
    "10F26 OLD SOGDIAN: FRACTION ONE HALF, LIGATURE AYIN-DALETH",
    "10F30 SOGDIAN LETTER: ALEPH, BETH, GIMEL, HE, WAW, ZAYIN, HETH, YODH, KAPH, LAMEDH, MEM, NUN, SAMEKH",
    "10F3D SOGDIAN LETTER: AYIN, PE, SADHE, RESH-AYIN, SHIN, TAW, FETH, LESH; 10F45 SOGDIAN INDEPENDENT: SHIN",
    "10F46 SOGDIAN COMBINING: DOT BELOW, TWO DOTS BELOW, DOT ABOVE, TWO DOTS ABOVE, CURVE ABOVE, CURVE BELOW",
    "10F4C SOGDIAN COMBINING: HOOK ABOVE, HOOK BELOW, LONG HOOK BELOW, RESH BELOW, STROKE BELOW",
    "10F51 SOGDIAN NUMBER: ONE, TEN, TWENTY, ONE HUNDRED",
    "10F55 SOGDIAN PUNCTUATION: TWO VERTICAL BARS, TWO VERTICAL BARS WITH DOTS, CIRCLE WITH DOT",
    "10F58 SOGDIAN PUNCTUATION: TWO CIRCLES WITH DOTS, HALF CIRCLE WITH DOT",
    "10F70 OLD UYGHUR LETTER: ALEPH, BETH, GIMEL-HETH, WAW, ZAYIN, FINAL HETH, YODH, KAPH, LAMEDH, MEM, NUN",
    "10F7B OLD UYGHUR LETTER: SAMEKH, PE, SADHE, RESH, SHIN, TAW, LESH",
    "10F82 OLD UYGHUR COMBINING: DOT ABOVE, DOT BELOW, TWO DOTS ABOVE, TWO DOTS BELOW",
    "10F86 OLD UYGHUR PUNCTUATION: BAR, TWO BARS, TWO DOTS, FOUR DOTS",
    "10FB0 CHORASMIAN LETTER: ALEPH, SMALL ALEPH, BETH, GIMEL, DALETH, HE, WAW, CURLED WAW, ZAYIN, HETH, YODH",
    "10FBB CHORASMIAN LETTER: KAPH, LAMEDH, MEM, NUN, SAMEKH, AYIN, PE, RESH, SHIN, TAW",
    "10FC5 CHORASMIAN NUMBER: ONE, TWO, THREE, FOUR, TEN, TWENTY, ONE HUNDRED",
    "10FE0 ELYMAIC LETTER: ALEPH, BETH, GIMEL, DALETH, HE, WAW, ZAYIN, HETH, TETH, YODH, KAPH, LAMEDH, MEM",
    "10FED ELYMAIC LETTER: NUN, SAMEKH, AYIN, PE, SADHE, QOPH, RESH, SHIN, TAW",
    "10FF6 ELYMAIC LIGATURE: ZAYIN-YODH",
    "11000 BRAHMI SIGN: CANDRABINDU, ANUSVARA, VISARGA, JIHVAMULIYA, UPADHMANIYA",
    "11005 BRAHMI LETTER: A, AA, I, II, U, UU, VOCALIC R, VOCALIC RR, VOCALIC L, VOCALIC LL, E, AI, O, AU, KA",
    "11014 BRAHMI LETTER: KHA, GA, GHA, NGA, CA, CHA, JA, JHA, NYA, TTA, TTHA, DDA, DDHA, NNA, TA, THA, DA",
    "11025 BRAHMI LETTER: DHA, NA, PA, PHA, BA, BHA, MA, YA, RA, LA, VA, SHA, SSA, SA, HA, LLA",
    "11035 BRAHMI LETTER: OLD TAMIL LLLA, OLD TAMIL RRA, OLD TAMIL NNNA",
    "11038 BRAHMI VOWEL SIGN: AA, BHATTIPROLU AA, I, II, U, UU, VOCALIC R, VOCALIC RR, VOCALIC L, VOCALIC LL",
    "11042 BRAHMI VOWEL SIGN: E, AI, O, AU; 11046 BRAHMI: VIRAMA, DANDA, DOUBLE DANDA",
    "11049 BRAHMI PUNCTUATION: DOT, DOUBLE DOT, LINE, CRESCENT BAR, LOTUS",
    "11052 BRAHMI NUMBER: ONE, TWO, THREE, FOUR, FIVE, SIX, SEVEN, EIGHT, NINE, TEN, TWENTY, THIRTY, FORTY",
    "1105F BRAHMI NUMBER: FIFTY, SIXTY, SEVENTY, EIGHTY, NINETY, ONE HUNDRED, ONE THOUSAND",
    "11066 BRAHMI DIGIT: ZERO, ONE, TWO, THREE, FOUR, FIVE, SIX, SEVEN, EIGHT, NINE",
    "11070 BRAHMI SIGN OLD TAMIL: VIRAMA; 11071 BRAHMI LETTER OLD TAMIL SHORT: E, O",
    "11073 BRAHMI VOWEL SIGN OLD TAMIL SHORT: E, O; 11075 BRAHMI LETTER OLD TAMIL: LLA",
    "1107F BRAHMI NUMBER: JOINER; 11080 KAITHI SIGN: CANDRABINDU, ANUSVARA, VISARGA",
    "11083 KAITHI LETTER: A, AA, I, II, U, UU, E, AI, O, AU, KA, KHA, GA, GHA, NGA, CA, CHA, JA, JHA, NYA",
    "11097 KAITHI LETTER: TTA, TTHA, DDA, DDDHA, DDHA, RHA, NNA, TA, THA, DA, DHA, NA, PA, PHA, BA, BHA, MA",
    "110A8 KAITHI LETTER: YA, RA, LA, VA, SHA, SSA, SA, HA",
    "110B0 KAITHI VOWEL SIGN: AA, I, II, U, UU, E, AI, O, AU",
    "110B9 KAITHI: SIGN VIRAMA, SIGN NUKTA, ABBREVIATION SIGN, ENUMERATION SIGN, NUMBER SIGN, SECTION MARK",
    "110BF KAITHI: DOUBLE SECTION MARK, DANDA, DOUBLE DANDA, VOWEL SIGN VOCALIC R",
    "110CD KAITHI NUMBER SIGN: ABOVE",
    "110D0 SORA SOMPENG LETTER: SAH, TAH, BAH, CAH, DAH, GAH, MAH, NGAH, LAH, NAH, VAH, PAH, YAH, RAH, HAH",
    "110DF SORA SOMPENG LETTER: KAH, JAH, NYAH, AH, EEH, IH, UH, OH, EH, MAE",
    "110F0 SORA SOMPENG DIGIT: ZERO, ONE, TWO, THREE, FOUR, FIVE, SIX, SEVEN, EIGHT, NINE",
    "11100 CHAKMA SIGN: CANDRABINDU, ANUSVARA, VISARGA",
    "11103 CHAKMA LETTER: AA, I, U, E, KAA, KHAA, GAA, GHAA, NGAA, CAA, CHAA, JAA, JHAA, NYAA, TTAA, TTHAA",
    "11113 CHAKMA LETTER: DDAA, DDHAA, NNAA, TAA, THAA, DAA, DHAA, NAA, PAA, PHAA, BAA, BHAA, MAA, YYAA, YAA",
    "11122 CHAKMA LETTER: RAA, LAA, WAA, SAA, HAA; 11127 CHAKMA VOWEL SIGN: A, I, II, U, UU, E, AI, O, AU, OI",
    "11131 CHAKMA: O MARK, AU MARK, VIRAMA, MAAYYAA",
    "11136 CHAKMA DIGIT: ZERO, ONE, TWO, THREE, FOUR, FIVE, SIX, SEVEN, EIGHT, NINE",
    "11140 CHAKMA: SECTION MARK, DANDA, DOUBLE DANDA, QUESTION MARK, LETTER LHAA, VOWEL SIGN AA",
    "11146 CHAKMA: VOWEL SIGN EI, LETTER VAA",
    "11150 MAHAJANI LETTER: A, I, U, E, O, KA, KHA, GA, GHA, CA, CHA, JA, JHA, NYA, TTA, TTHA, DDA, DDHA, NNA",
    "11163 MAHAJANI LETTER: TA, THA, DA, DHA, NA, PA, PHA, BA, BHA, MA, RA, LA, VA, SA, HA, RRA",
    "11173 MAHAJANI: SIGN NUKTA, ABBREVIATION SIGN, SECTION MARK, LIGATURE SHRI",
    "11180 SHARADA SIGN: CANDRABINDU, ANUSVARA, VISARGA",
    "11183 SHARADA LETTER: A, AA, I, II, U, UU, VOCALIC R, VOCALIC RR, VOCALIC L, VOCALIC LL, E, AI, O, AU",
    "11191 SHARADA LETTER: KA, KHA, GA, GHA, NGA, CA, CHA, JA, JHA, NYA, TTA, TTHA, DDA, DDHA, NNA, TA, THA",
    "111A2 SHARADA LETTER: DA, DHA, NA, PA, PHA, BA, BHA, MA, YA, RA, LA, LLA, VA, SHA, SSA, SA, HA",
    "111B3 SHARADA VOWEL SIGN: AA, I, II, U, UU, VOCALIC R, VOCALIC RR, VOCALIC L, VOCALIC LL, E, AI, O, AU",
    "111C0 SHARADA: SIGN VIRAMA, SIGN AVAGRAHA, SIGN JIHVAMULIYA, SIGN UPADHMANIYA, OM, DANDA, DOUBLE DANDA",
    "111C7 SHARADA: ABBREVIATION SIGN, SEPARATOR, SANDHI MARK, SIGN NUKTA, VOWEL MODIFIER MARK",
    "111CC SHARADA: EXTRA SHORT VOWEL MARK, SUTRA MARK, VOWEL SIGN PRISHTHAMATRA E, SIGN INVERTED CANDRABINDU",
    "111D0 SHARADA DIGIT: ZERO, ONE, TWO, THREE, FOUR, FIVE, SIX, SEVEN, EIGHT, NINE",
    "111DA SHARADA: EKAM, SIGN SIDDHAM, HEADSTROKE, CONTINUATION SIGN, SECTION MARK-1, SECTION MARK-2",
    "111E1 SINHALA ARCHAIC DIGIT: ONE, TWO, THREE, FOUR, FIVE, SIX, SEVEN, EIGHT, NINE",
    "111EA SINHALA ARCHAIC NUMBER: TEN, TWENTY, THIRTY, FORTY, FIFTY, SIXTY, SEVENTY, EIGHTY, NINETY",
    "111F3 SINHALA ARCHAIC NUMBER: ONE HUNDRED, ONE THOUSAND",
    "11200 KHOJKI LETTER: A, AA, I, U, E, AI, O, AU, KA, KHA, GA, GGA, GHA, NGA, CA, CHA, JA, JJA",
    "11213 KHOJKI LETTER: NYA, TTA, TTHA, DDA, DDHA, NNA, TA, THA, DA, DDDA, DHA, NA, PA, PHA, BA, BBA, BHA",
    "11224 KHOJKI LETTER: MA, YA, RA, LA, VA, SA, HA, LLA",
    "1122C KHOJKI VOWEL SIGN: AA, I, II, U, E, AI, O, AU; 11234 KHOJKI SIGN: ANUSVARA, VIRAMA, NUKTA, SHADDA",
    "11238 KHOJKI: DANDA, DOUBLE DANDA, WORD SEPARATOR, SECTION MARK, DOUBLE SECTION MARK, ABBREVIATION SIGN",
    "1123E KHOJKI: SIGN SUKUN; 11280 MULTANI LETTER: A, I, U, E, KA, KHA, GA; 11288 MULTANI LETTER: GHA",
    "1128A MULTANI LETTER: CA, CHA, JA, JJA",
    "1128F MULTANI LETTER: NYA, TTA, TTHA, DDA, DDDA, DDHA, NNA, TA, THA, DA, DHA, NA, PA, PHA, BA",
    "1129F MULTANI LETTER: BHA, MA, YA, RA, LA, VA, SA, HA, RRA, RHA; 112A9 MULTANI SECTION: MARK",
    "112B0 KHUDAWADI LETTER: A, AA, I, II, U, UU, E, AI, O, AU, KA, KHA, GA, GGA, GHA, NGA, CA, CHA, JA, JJA",
    "112C4 KHUDAWADI LETTER: JHA, NYA, TTA, TTHA, DDA, DDDA, RRA, DDHA, NNA, TA, THA, DA, DHA, NA, PA, PHA",
    "112D4 KHUDAWADI LETTER: BA, BBA, BHA, MA, YA, RA, LA, VA, SHA, SA, HA; 112DF KHUDAWADI SIGN: ANUSVARA",
    "112E0 KHUDAWADI VOWEL SIGN: AA, I, II, U, UU, E, AI, O, AU; 112E9 KHUDAWADI SIGN: NUKTA, VIRAMA",
    "112F0 KHUDAWADI DIGIT: ZERO, ONE, TWO, THREE, FOUR, FIVE, SIX, SEVEN, EIGHT, NINE",
    "11300 GRANTHA SIGN: COMBINING ANUSVARA ABOVE, CANDRABINDU, ANUSVARA, VISARGA",
    "11305 GRANTHA LETTER: A, AA, I, II, U, UU, VOCALIC R, VOCALIC L; 1130F GRANTHA LETTER: EE, AI",
    "11313 GRANTHA LETTER: OO, AU, KA, KHA, GA, GHA, NGA, CA, CHA, JA, JHA, NYA, TTA, TTHA, DDA, DDHA, NNA",
    "11324 GRANTHA LETTER: TA, THA, DA, DHA, NA; 1132A GRANTHA LETTER: PA, PHA, BA, BHA, MA, YA, RA",
    "11332 GRANTHA LETTER: LA, LLA; 11335 GRANTHA LETTER: VA, SHA, SSA, SA, HA; 1133B COMBINING BINDU: BELOW",
    "1133C GRANTHA SIGN: NUKTA, AVAGRAHA; 1133E GRANTHA VOWEL SIGN: AA, I, II, U, UU, VOCALIC R, VOCALIC RR",
    "11347 GRANTHA VOWEL SIGN: EE, AI; 1134B GRANTHA: VOWEL SIGN OO, VOWEL SIGN AU, SIGN VIRAMA",
    "11350 GRANTHA: OM; 11357 GRANTHA AU LENGTH: MARK; 1135D GRANTHA SIGN: PLUTA",
    "1135E GRANTHA LETTER: VEDIC ANUSVARA, VEDIC DOUBLE ANUSVARA, VOCALIC RR, VOCALIC LL",
    "11362 GRANTHA VOWEL SIGN VOCALIC: L, LL",
    "11366 COMBINING GRANTHA DIGIT: ZERO, ONE, TWO, THREE, FOUR, FIVE, SIX",
    "11370 COMBINING GRANTHA LETTER: A, KA, NA, VI, PA",
    "11400 NEWA LETTER: A, AA, I, II, U, UU, VOCALIC R, VOCALIC RR, VOCALIC L, VOCALIC LL, E, AI, O, AU, KA",
    "1140F NEWA LETTER: KHA, GA, GHA, NGA, NGHA, CA, CHA, JA, JHA, NYA, NYHA, TTA, TTHA, DDA, DDHA, NNA, TA",
    "11420 NEWA LETTER: THA, DA, DHA, NA, NHA, PA, PHA, BA, BHA, MA, MHA, YA, RA, RHA, LA, LHA, WA, SHA, SSA",
    "11433 NEWA LETTER: SA, HA",
    "11435 NEWA VOWEL SIGN: AA, I, II, U, UU, VOCALIC R, VOCALIC RR, VOCALIC L, VOCALIC LL, E, AI, O, AU",
    "11442 NEWA SIGN: VIRAMA, CANDRABINDU, ANUSVARA, VISARGA, NUKTA, AVAGRAHA, FINAL ANUSVARA",
    "11449 NEWA: OM, SIDDHI, DANDA, DOUBLE DANDA, COMMA, GAP FILLER, ABBREVIATION SIGN",
    "11450 NEWA DIGIT: ZERO, ONE, TWO, THREE, FOUR, FIVE, SIX, SEVEN, EIGHT, NINE",
    "1145A NEWA: DOUBLE COMMA, PLACEHOLDER MARK",
    "1145D NEWA: INSERTION SIGN, SANDHI MARK, LETTER VEDIC ANUSVARA, SIGN JIHVAMULIYA, SIGN UPADHMANIYA",
    "11480 TIRHUTA: ANJI",
    "11481 TIRHUTA LETTER: A, AA, I, II, U, UU, VOCALIC R, VOCALIC RR, VOCALIC L, VOCALIC LL, E, AI, O, AU",
    "1148F TIRHUTA LETTER: KA, KHA, GA, GHA, NGA, CA, CHA, JA, JHA, NYA, TTA, TTHA, DDA, DDHA, NNA, TA, THA",
    "114A0 TIRHUTA LETTER: DA, DHA, NA, PA, PHA, BA, BHA, MA, YA, RA, LA, VA, SHA, SSA, SA, HA",
    "114B0 TIRHUTA VOWEL SIGN: AA, I, II, U, UU, VOCALIC R, VOCALIC RR, VOCALIC L, VOCALIC LL, E, SHORT E, AI",
    "114BC TIRHUTA VOWEL SIGN: O, SHORT O, AU",
    "114BF TIRHUTA SIGN: CANDRABINDU, ANUSVARA, VISARGA, VIRAMA, NUKTA, AVAGRAHA",
    "114C5 TIRHUTA: GVANG, ABBREVIATION SIGN, OM",
    "114D0 TIRHUTA DIGIT: ZERO, ONE, TWO, THREE, FOUR, FIVE, SIX, SEVEN, EIGHT, NINE",
    "11580 SIDDHAM LETTER: A, AA, I, II, U, UU, VOCALIC R, VOCALIC RR, VOCALIC L, VOCALIC LL, E, AI, O, AU",
    "1158E SIDDHAM LETTER: KA, KHA, GA, GHA, NGA, CA, CHA, JA, JHA, NYA, TTA, TTHA, DDA, DDHA, NNA, TA, THA",
    "1159F SIDDHAM LETTER: DA, DHA, NA, PA, PHA, BA, BHA, MA, YA, RA, LA, VA, SHA, SSA, SA, HA",
    "115AF SIDDHAM VOWEL SIGN: AA, I, II, U, UU, VOCALIC R, VOCALIC RR",
    "115B8 SIDDHAM VOWEL SIGN: E, AI, O, AU",
    "115BC SIDDHAM SIGN: CANDRABINDU, ANUSVARA, VISARGA, VIRAMA, NUKTA, SIDDHAM",
    "115C2 SIDDHAM: DANDA, DOUBLE DANDA, SEPARATOR DOT, SEPARATOR BAR, REPETITION MARK-1, REPETITION MARK-2",
    "115C8 SIDDHAM: REPETITION MARK-3, END OF TEXT MARK",
    "115CA SIDDHAM SECTION MARK WITH TRIDENT AND: U-SHAPED ORNAMENTS, DOTTED CRESCENTS",
    "115CC SIDDHAM SECTION MARK WITH RAYS AND DOTTED: CRESCENTS, DOUBLE CRESCENTS, TRIPLE CRESCENTS",
    "115CF SIDDHAM SECTION MARK DOUBLE: RING, RING WITH RAYS",
    "115D1 SIDDHAM SECTION MARK WITH: DOUBLE CRESCENTS, TRIPLE CRESCENTS, QUADRUPLE CRESCENTS",
    "115D4 SIDDHAM SECTION MARK WITH: SEPTUPLE CRESCENTS, CIRCLES AND RAYS, CIRCLES AND TWO ENCLOSURES",
    "115D7 SIDDHAM SECTION MARK WITH: CIRCLES AND FOUR ENCLOSURES",
    "115D8 SIDDHAM LETTER: THREE-CIRCLE ALTERNATE I, TWO-CIRCLE ALTERNATE I, TWO-CIRCLE ALTERNATE II",
    "115DB SIDDHAM LETTER: ALTERNATE U; 115DC SIDDHAM VOWEL SIGN ALTERNATE: U, UU",
    "11600 MODI LETTER: A, AA, I, II, U, UU, VOCALIC R, VOCALIC RR, VOCALIC L, VOCALIC LL, E, AI, O, AU, KA",
    "1160F MODI LETTER: KHA, GA, GHA, NGA, CA, CHA, JA, JHA, NYA, TTA, TTHA, DDA, DDHA, NNA, TA, THA, DA, DHA",
    "11621 MODI LETTER: NA, PA, PHA, BA, BHA, MA, YA, RA, LA, VA, SHA, SSA, SA, HA, LLA",
    "11630 MODI VOWEL SIGN: AA, I, II, U, UU, VOCALIC R, VOCALIC RR, VOCALIC L, VOCALIC LL, E, AI, O, AU",
    "1163D MODI SIGN: ANUSVARA, VISARGA, VIRAMA, ARDHACANDRA",
    "11641 MODI: DANDA, DOUBLE DANDA, ABBREVIATION SIGN, SIGN HUVA",
    "11650 MODI DIGIT: ZERO, ONE, TWO, THREE, FOUR, FIVE, SIX, SEVEN, EIGHT, NINE",
    "11660 MONGOLIAN: BIRGA WITH ORNAMENT, ROTATED BIRGA, DOUBLE BIRGA WITH ORNAMENT",
    "11663 MONGOLIAN: TRIPLE BIRGA WITH ORNAMENT, BIRGA WITH DOUBLE ORNAMENT, ROTATED BIRGA WITH ORNAMENT",
    "11666 MONGOLIAN: ROTATED BIRGA WITH DOUBLE ORNAMENT, INVERTED BIRGA, INVERTED BIRGA WITH DOUBLE ORNAMENT",
    "11669 MONGOLIAN: SWIRL BIRGA, SWIRL BIRGA WITH ORNAMENT, SWIRL BIRGA WITH DOUBLE ORNAMENT",
    "1166C MONGOLIAN: TURNED SWIRL BIRGA WITH DOUBLE ORNAMENT",
    "11680 TAKRI LETTER: A, AA, I, II, U, UU, E, AI, O, AU, KA, KHA, GA, GHA, NGA, CA, CHA, JA, JHA, NYA, TTA",
    "11695 TAKRI LETTER: TTHA, DDA, DDHA, NNA, TA, THA, DA, DHA, NA, PA, PHA, BA, BHA, MA, YA, RA, LA, VA",
    "116A7 TAKRI LETTER: SHA, SA, HA, RRA; 116AB TAKRI SIGN: ANUSVARA, VISARGA",
    "116AD TAKRI VOWEL SIGN: AA, I, II, U, UU, E, AI, O, AU",
    "116B6 TAKRI: SIGN VIRAMA, SIGN NUKTA, LETTER ARCHAIC KHA, ABBREVIATION SIGN",
    "116C0 TAKRI DIGIT: ZERO, ONE, TWO, THREE, FOUR, FIVE, SIX, SEVEN, EIGHT, NINE",
    "11700 AHOM LETTER: KA, KHA, NGA, NA, TA, ALTERNATE TA, PA, PHA, BA, MA, JA, CHA, THA, RA, LA, SA, NYA",
    "11711 AHOM LETTER: HA, A, DA, DHA, GA, ALTERNATE GA, GHA, BHA, JHA, ALTERNATE BA",
    "1171D AHOM CONSONANT SIGN MEDIAL: LA, RA, LIGATING RA",
    "11720 AHOM VOWEL SIGN: A, AA, I, II, U, UU, E, AW, O, AI, AM; 1172B AHOM SIGN: KILLER",
    "11730 AHOM DIGIT: ZERO, ONE, TWO, THREE, FOUR, FIVE, SIX, SEVEN, EIGHT, NINE",
    "1173A AHOM: NUMBER TEN, NUMBER TWENTY, SIGN SMALL SECTION, SIGN SECTION, SIGN RULAI, SYMBOL VI",
    "11740 AHOM LETTER: CA, TTA, TTHA, DDA, DDHA, NNA, LLA",
    "11800 DOGRA LETTER: A, AA, I, II, U, UU, E, AI, O, AU, KA, KHA, GA, GHA, NGA, CA, CHA, JA, JHA, NYA, TTA",
    "11815 DOGRA LETTER: TTHA, DDA, DDHA, NNA, TA, THA, DA, DHA, NA, PA, PHA, BA, BHA, MA, YA, RA, LA, VA",
    "11827 DOGRA LETTER: SHA, SSA, SA, HA, RRA",
    "1182C DOGRA VOWEL SIGN: AA, I, II, U, UU, VOCALIC R, VOCALIC RR, E, AI, O, AU",
    "11837 DOGRA SIGN: ANUSVARA, VISARGA, VIRAMA, NUKTA; 1183B DOGRA ABBREVIATION: SIGN",
    "118A0 WARANG CITI CAPITAL LETTER: NGAA, A, WI, YU, YA, YO, II, UU, E, O, ANG, GA, KO, ENY, YUJ, UC, ENN",
    "118B1 WARANG CITI CAPITAL LETTER: ODD, TTE, NUNG, DA, AT, AM, BU, PU, HIYO, HOLO, HORR, HAR, SSUU, SII",
    "118BF WARANG CITI CAPITAL LETTER: VIYO",
    "118C0 WARANG CITI SMALL LETTER: NGAA, A, WI, YU, YA, YO, II, UU, E, O, ANG, GA, KO, ENY, YUJ, UC, ENN",
    "118D1 WARANG CITI SMALL LETTER: ODD, TTE, NUNG, DA, AT, AM, BU, PU, HIYO, HOLO, HORR, HAR, SSUU, SII",
    "118DF WARANG CITI SMALL LETTER: VIYO",
    "118E0 WARANG CITI DIGIT: ZERO, ONE, TWO, THREE, FOUR, FIVE, SIX, SEVEN, EIGHT, NINE",
    "118EA WARANG CITI NUMBER: TEN, TWENTY, THIRTY, FORTY, FIFTY, SIXTY, SEVENTY, EIGHTY, NINETY",
    "118FF WARANG CITI: OM; 11900 DIVES AKURU LETTER: A, AA, I, II, U, UU, E; 11909 DIVES AKURU LETTER: O",
    "1190C DIVES AKURU LETTER: KA, KHA, GA, GHA, NGA, CA, CHA, JA; 11915 DIVES AKURU LETTER: NYA, TTA",
    "11918 DIVES AKURU LETTER: DDA, DDHA, NNA, TA, THA, DA, DHA, NA, PA, PHA, BA, BHA, MA, YA, YYA, RA, LA",
    "11929 DIVES AKURU LETTER: VA, SHA, SSA, SA, HA, LLA, ZA",
    "11930 DIVES AKURU VOWEL SIGN: AA, I, II, U, UU, E; 11937 DIVES AKURU VOWEL SIGN: AI, O",
    "1193B DIVES AKURU: SIGN ANUSVARA, SIGN CANDRABINDU, SIGN HALANTA, VIRAMA, PREFIXED NASAL SIGN, MEDIAL YA",
    "11941 DIVES AKURU: INITIAL RA, MEDIAL RA, SIGN NUKTA, DOUBLE DANDA, GAP FILLER, END OF TEXT MARK",
    "11950 DIVES AKURU DIGIT: ZERO, ONE, TWO, THREE, FOUR, FIVE, SIX, SEVEN, EIGHT, NINE",
    "119A0 NANDINAGARI LETTER: A, AA, I, II, U, UU, VOCALIC R, VOCALIC RR",
    "119AA NANDINAGARI LETTER: E, AI, O, AU, KA, KHA, GA, GHA, NGA, CA, CHA, JA, JHA, NYA, TTA, TTHA, DDA",
    "119BB NANDINAGARI LETTER: DDHA, NNA, TA, THA, DA, DHA, NA, PA, PHA, BA, BHA, MA, YA, RA, LA, VA, SHA",
    "119CC NANDINAGARI LETTER: SSA, SA, HA, LLA, RRA",
    "119D1 NANDINAGARI VOWEL SIGN: AA, I, II, U, UU, VOCALIC R, VOCALIC RR",
    "119DA NANDINAGARI VOWEL SIGN: E, AI, O, AU",
    "119DE NANDINAGARI SIGN: ANUSVARA, VISARGA, VIRAMA, AVAGRAHA, SIDDHAM",
    "119E3 NANDINAGARI: HEADSTROKE, VOWEL SIGN PRISHTHAMATRA E; 11A00 ZANABAZAR SQUARE LETTER: A",
    "11A01 ZANABAZAR SQUARE VOWEL SIGN: I, UE, U, E, OE, O, AI, AU, REVERSED I",
    "11A0A ZANABAZAR SQUARE VOWEL LENGTH: MARK",
    "11A0B ZANABAZAR SQUARE LETTER: KA, KHA, GA, GHA, NGA, CA, CHA, JA, NYA, TTA, TTHA, DDA, DDHA, NNA, TA",
    "11A1A ZANABAZAR SQUARE LETTER: THA, DA, DHA, NA, PA, PHA, BA, BHA, MA, TSA, TSHA, DZA, DZHA, ZHA, ZA, -A",
    "11A2A ZANABAZAR SQUARE LETTER: YA, RA, LA, VA, SHA, SSA, SA, HA, KSSA",
    "11A33 ZANABAZAR SQUARE: FINAL CONSONANT MARK, SIGN VIRAMA, SIGN CANDRABINDU",
    "11A36 ZANABAZAR SQUARE: SIGN CANDRABINDU WITH ORNAMENT, SIGN CANDRA WITH ORNAMENT, SIGN ANUSVARA",
    "11A39 ZANABAZAR SQUARE: SIGN VISARGA, CLUSTER-INITIAL LETTER RA",
    "11A3B ZANABAZAR SQUARE CLUSTER-FINAL LETTER: YA, RA, LA, VA",
    "11A3F ZANABAZAR SQUARE: INITIAL HEAD MARK, CLOSING HEAD MARK, MARK TSHEG, MARK SHAD, MARK DOUBLE SHAD",
    "11A44 ZANABAZAR SQUARE: MARK LONG TSHEG, INITIAL DOUBLE-LINED HEAD MARK, CLOSING DOUBLE-LINED HEAD MARK",
    "11A47 ZANABAZAR SQUARE: SUBJOINER; 11A50 SOYOMBO LETTER: A",
    "11A51 SOYOMBO VOWEL SIGN: I, UE, U, E, O, OE, AI, AU, VOCALIC R, VOCALIC L",
    "11A5B SOYOMBO VOWEL LENGTH: MARK",
    "11A5C SOYOMBO LETTER: KA, KHA, GA, GHA, NGA, CA, CHA, JA, JHA, NYA, TTA, TTHA, DDA, DDHA, NNA, TA, THA",
    "11A6D SOYOMBO LETTER: DA, DHA, NA, PA, PHA, BA, BHA, MA, TSA, TSHA, DZA, ZHA, ZA, -A, YA, RA, LA, VA",
    "11A7F SOYOMBO LETTER: SHA, SSA, SA, HA, KSSA; 11A84 SOYOMBO SIGN: JIHVAMULIYA, UPADHMANIYA",
    "11A86 SOYOMBO CLUSTER-INITIAL LETTER: RA, LA, SHA, SA",
    "11A8A SOYOMBO FINAL CONSONANT SIGN: G, K, NG, D, N, B, M, R, L, SH, S, -A",
    "11A96 SOYOMBO: SIGN ANUSVARA, SIGN VISARGA, GEMINATION MARK, SUBJOINER, MARK TSHEG, MARK SHAD",
    "11A9C SOYOMBO: MARK DOUBLE SHAD, MARK PLUTA",
    "11A9E SOYOMBO HEAD MARK WITH MOON AND: SUN AND TRIPLE FLAME, SUN AND FLAME, SUN",
    "11AA1 SOYOMBO TERMINAL: MARK-1, MARK-2",
    "11AB0 CANADIAN SYLLABICS NATTILIK: HI, HII, HO, HOO, HA, HAA, SHRI, SHRII, SHRO, SHROO, SHRA, SHRAA",
    "11ABC CANADIAN SYLLABICS: SPE, SPI, SPO, SPA",
    "11AC0 PAU CIN HAU LETTER: PA, KA, LA, MA, DA, ZA, VA, NGA, HA, GA, KHA, SA, BA, CA, TA, THA, NA, PHA, RA",
    "11AD3 PAU CIN HAU LETTER: FA, CHA, A, E, I, O, U, UA, IA",
    "11ADC PAU CIN HAU LETTER FINAL: P, K, T, M, N, L, W, NG, Y",
    "11AE5 PAU CIN HAU: RISING TONE LONG, RISING TONE, SANDHI GLOTTAL STOP, RISING TONE LONG FINAL",
    "11AE9 PAU CIN HAU: RISING TONE FINAL, SANDHI GLOTTAL STOP FINAL, SANDHI TONE LONG, SANDHI TONE",
    "11AED PAU CIN HAU: SANDHI TONE LONG FINAL, SANDHI TONE FINAL, MID-LEVEL TONE, GLOTTAL STOP VARIANT",
    "11AF1 PAU CIN HAU: MID-LEVEL TONE LONG FINAL, MID-LEVEL TONE FINAL, LOW-FALLING TONE LONG",
    "11AF4 PAU CIN HAU: LOW-FALLING TONE, GLOTTAL STOP, LOW-FALLING TONE LONG FINAL, LOW-FALLING TONE FINAL",
    "11AF8 PAU CIN HAU: GLOTTAL STOP FINAL",
    "11C00 BHAIKSUKI LETTER: A, AA, I, II, U, UU, VOCALIC R, VOCALIC RR, VOCALIC L",
    "11C0A BHAIKSUKI LETTER: E, AI, O, AU, KA, KHA, GA, GHA, NGA, CA, CHA, JA, JHA, NYA, TTA, TTHA, DDA, DDHA",
    "11C1C BHAIKSUKI LETTER: NNA, TA, THA, DA, DHA, NA, PA, PHA, BA, BHA, MA, YA, RA, LA, VA, SHA, SSA, SA",
    "11C2E BHAIKSUKI LETTER: HA",
    "11C2F BHAIKSUKI VOWEL SIGN: AA, I, II, U, UU, VOCALIC R, VOCALIC RR, VOCALIC L",
    "11C38 BHAIKSUKI VOWEL SIGN: E, AI, O, AU",
    "11C3C BHAIKSUKI SIGN: CANDRABINDU, ANUSVARA, VISARGA, VIRAMA, AVAGRAHA",
    "11C41 BHAIKSUKI: DANDA, DOUBLE DANDA, WORD SEPARATOR, GAP FILLER-1, GAP FILLER-2",
    "11C50 BHAIKSUKI DIGIT: ZERO, ONE, TWO, THREE, FOUR, FIVE, SIX, SEVEN, EIGHT, NINE",
    "11C5A BHAIKSUKI NUMBER: ONE, TWO, THREE, FOUR, FIVE, SIX, SEVEN, EIGHT, NINE, TEN, TWENTY, THIRTY, FORTY",
    "11C67 BHAIKSUKI NUMBER: FIFTY, SIXTY, SEVENTY, EIGHTY, NINETY; 11C6C BHAIKSUKI HUNDREDS UNIT: MARK",
    "11C70 MARCHEN: HEAD MARK, MARK SHAD",
    "11C72 MARCHEN LETTER: KA, KHA, GA, NGA, CA, CHA, JA, NYA, TA, THA, DA, NA, PA, PHA, BA, MA, TSA, TSHA",
    "11C84 MARCHEN LETTER: DZA, WA, ZHA, ZA, -A, YA, RA, LA, SHA, SA, HA, A",
    "11C92 MARCHEN SUBJOINED LETTER: KA, KHA, GA, NGA, CA, CHA, JA, NYA, TA, THA, DA, NA, PA, PHA, BA, MA",
    "11CA2 MARCHEN SUBJOINED LETTER: TSA, TSHA, DZA, WA, ZHA, ZA",
    "11CA9 MARCHEN SUBJOINED LETTER: YA, RA, LA, SHA, SA, HA, A; 11CB0 MARCHEN VOWEL SIGN: AA, I, U, E, O",
    "11CB5 MARCHEN SIGN: ANUSVARA, CANDRABINDU; 11D00 MASARAM GONDI LETTER: A, AA, I, II, U, UU, E",
    "11D08 MASARAM GONDI LETTER: AI, O",
    "11D0B MASARAM GONDI LETTER: AU, KA, KHA, GA, GHA, NGA, CA, CHA, JA, JHA, NYA, TTA, TTHA, DDA, DDHA, NNA",
    "11D1B MASARAM GONDI LETTER: TA, THA, DA, DHA, NA, PA, PHA, BA, BHA, MA, YA, RA, LA, VA, SHA, SSA, SA, HA",
    "11D2D MASARAM GONDI LETTER: LLA, KSSA, JNYA, TRA",
    "11D31 MASARAM GONDI VOWEL SIGN: AA, I, II, U, UU, VOCALIC R; 11D3A MASARAM GONDI VOWEL SIGN: E",
    "11D3C MASARAM GONDI VOWEL SIGN: AI, O",
    "11D3F MASARAM GONDI: VOWEL SIGN AU, SIGN ANUSVARA, SIGN VISARGA, SIGN NUKTA, SIGN CANDRA, SIGN HALANTA",
    "11D45 MASARAM GONDI: VIRAMA, REPHA, RA-KARA",
    "11D50 MASARAM GONDI DIGIT: ZERO, ONE, TWO, THREE, FOUR, FIVE, SIX, SEVEN, EIGHT, NINE",
    "11D60 GUNJALA GONDI LETTER: A, AA, I, II, U, UU; 11D67 GUNJALA GONDI LETTER: EE, AI",
    "11D6A GUNJALA GONDI LETTER: OO, AU, YA, VA, BA, BHA, MA, KA, KHA, TA, THA, LA, GA, GHA, DA, DHA, NA, CA",
    "11D7C GUNJALA GONDI LETTER: CHA, TTA, TTHA, LLA, JA, JHA, DDA, DDHA, NGA, PA, PHA, HA, RA, SA",
    "11D8A GUNJALA GONDI VOWEL SIGN: AA, I, II, U, UU; 11D90 GUNJALA GONDI VOWEL SIGN: EE, AI",
    "11D93 GUNJALA GONDI: VOWEL SIGN OO, VOWEL SIGN AU, SIGN ANUSVARA, SIGN VISARGA, VIRAMA, OM",
    "11DA0 GUNJALA GONDI DIGIT: ZERO, ONE, TWO, THREE, FOUR, FIVE, SIX, SEVEN, EIGHT, NINE",
    "11EE0 MAKASAR LETTER: KA, GA, NGA, PA, BA, MA, TA, DA, NA, CA, JA, NYA, YA, RA, LA, VA, SA, A",
    "11EF2 MAKASAR: ANGKA; 11EF3 MAKASAR VOWEL SIGN: I, U, E, O; 11EF7 MAKASAR: PASSIMBANG, END OF SECTION",
    "11FB0 LISU LETTER: YHA",
    "11FC0 TAMIL FRACTION: ONE THREE-HUNDRED-AND-TWENTIETH, ONE ONE-HUNDRED-AND-SIXTIETH, ONE EIGHTIETH",
    "11FC3 TAMIL FRACTION: ONE SIXTY-FOURTH, ONE FORTIETH, ONE THIRTY-SECOND, THREE EIGHTIETHS",
    "11FC7 TAMIL FRACTION: THREE SIXTY-FOURTHS, ONE TWENTIETH, ONE SIXTEENTH-1, ONE SIXTEENTH-2, ONE TENTH",
    "11FCC TAMIL FRACTION: ONE EIGHTH, THREE TWENTIETHS, THREE SIXTEENTHS, ONE FIFTH, ONE QUARTER, ONE HALF-1",
    "11FD2 TAMIL FRACTION: ONE HALF-2, THREE QUARTERS, DOWNSCALING FACTOR KIIZH",
    "11FD5 TAMIL SIGN: NEL, CEVITU, AAZHAAKKU, UZHAKKU, MUUVUZHAKKU, KURUNI, PATHAKKU, MUKKURUNI, KAACU",
    "11FDE TAMIL SIGN: PANAM, PON, VARAAKAN, PAARAM, KUZHI, VELI",
    "11FE4 TAMIL: WET CULTIVATION SIGN, DRY CULTIVATION SIGN, LAND SIGN, SALT PAN SIGN",
    "11FE8 TAMIL: TRADITIONAL CREDIT SIGN, TRADITIONAL NUMBER SIGN, CURRENT SIGN, AND ODD SIGN, SPENT SIGN",
    "11FED TAMIL: TOTAL SIGN, IN POSSESSION SIGN, STARTING FROM SIGN, SIGN MUTHALIYA, SIGN VAKAIYARAA",
    "11FFF: TAMIL PUNCTUATION END OF TEXT, CUNEIFORM SIGN A",
    "12001 CUNEIFORM SIGN A TIMES: A, BAD, GAN2 TENU, HA, IGI, LAGAR GUNU, MUSH, SAG",
    "12009 CUNEIFORM SIGN: A2, AB",
    "1200B CUNEIFORM SIGN AB TIMES: ASH2, DUN3 GUNU, GAL, GAN2 TENU, HA, IGI GUNU, IMIN, LAGAB, SHESH",
    "12014 CUNEIFORM SIGN AB TIMES: U PLUS U PLUS U",
    "12015 CUNEIFORM SIGN: AB GUNU, AB2, AB2 TIMES BALAG, AB2 TIMES GAN2 TENU, AB2 TIMES ME PLUS EN",
    "1201A CUNEIFORM SIGN: AB2 TIMES SHA3, AB2 TIMES TAK4, AD, AK, AK TIMES ERIN2, AK TIMES SHITA PLUS GISH",
    "12020 CUNEIFORM SIGN: AL; 12021 CUNEIFORM SIGN AL TIMES: AL, DIM2, GISH, HA, KAD3, KI, SHE, USH",
    "12029 CUNEIFORM SIGN: ALAN, ALEPH, AMAR, AMAR TIMES SHE, AN, AN OVER AN, AN THREE TIMES",
    "12030 CUNEIFORM SIGN: AN PLUS NAGA OPPOSING AN PLUS NAGA, AN PLUS NAGA SQUARED, ANSHE, APIN, ARAD",
    "12035 CUNEIFORM SIGN: ARAD TIMES KUR, ARKAB, ASAL2, ASH, ASH ZIDA TENU, ASH KABA TENU",
    "1203B CUNEIFORM SIGN: ASH OVER ASH TUG2 OVER TUG2 TUG2 OVER TUG2 PAP, ASH OVER ASH OVER ASH",
    "1203D CUNEIFORM SIGN: ASH OVER ASH OVER ASH CROSSING ASH OVER ASH OVER ASH, ASH2, ASHGAB, BA, BAD, BAG3",
    "12043 CUNEIFORM SIGN: BAHAR2, BAL, BAL OVER BAL, BALAG, BAR, BARA2, BI, BI TIMES A, BI TIMES GAR",
    "1204C CUNEIFORM SIGN: BI TIMES IGI GUNU, BU, BU OVER BU AB, BU OVER BU UN, BU CROSSING BU, BULUG",
    "12052 CUNEIFORM SIGN: BULUG OVER BULUG, BUR, BUR2, DA, DAG",
    "12057 CUNEIFORM SIGN DAG KISIM5 TIMES: A PLUS MASH, AMAR, BALAG, BI, GA, GA PLUS MASH, GI, GIR2, GUD, HA",
    "12061 CUNEIFORM SIGN DAG KISIM5 TIMES: IR, IR PLUS LU, KAK, LA, LU, LU PLUS MASH2, LUM, NE, PAP PLUS PAP",
    "1206A CUNEIFORM SIGN DAG KISIM5 TIMES: SI, TAK4, U2 PLUS GIR2, USH",
    "1206E CUNEIFORM SIGN: DAM, DAR, DARA3, DARA4, DI, DIB, DIM, DIM TIMES SHE, DIM2, DIN",
    "12078 CUNEIFORM SIGN: DIN KASKAL U GUNU DISH, DISH, DU, DU OVER DU, DU GUNU, DU SHESHIG, DUB",
    "1207F CUNEIFORM SIGN: DUB TIMES ESH2, DUB2, DUG, DUGUD, DUH, DUN, DUN3, DUN3 GUNU, DUN3 GUNU GUNU, DUN4",
    "12089 CUNEIFORM SIGN: DUR2, E, E TIMES PAP, E OVER E NUN OVER NUN, E2",
    "1208E CUNEIFORM SIGN E2 TIMES: A PLUS HA PLUS DA, GAR, MI, SAL, SHE, U",
    "12094 CUNEIFORM SIGN: EDIN, EGIR, EL, EN, EN TIMES GAN2, EN TIMES GAN2 TENU, EN TIMES ME, EN CROSSING EN",
    "1209C CUNEIFORM SIGN: EN OPPOSING EN, EN SQUARED, EREN, ERIN2, ESH2, EZEN",
    "120A2 CUNEIFORM SIGN EZEN TIMES: A, A PLUS LAL, A PLUS LAL TIMES LAL, AN, BAD, DUN3 GUNU, DUN3 GUNU GUNU",
    "120A9 CUNEIFORM SIGN EZEN TIMES: HA, HA GUNU, IGI GUNU, KASKAL, KASKAL SQUARED, KU3, LA, LAL TIMES LAL",
    "120B1 CUNEIFORM SIGN EZEN TIMES: LI, LU, U2, UD; 120B5 CUNEIFORM SIGN: GA, GA GUNU, GA2",
    "120B8 CUNEIFORM SIGN GA2 TIMES: A PLUS DA PLUS HA, A PLUS HA, A PLUS IGI, AB2 TENU PLUS TAB, AN, ASH",
    "120BE CUNEIFORM SIGN GA2 TIMES: ASH2 PLUS GAL, BAD, BAR PLUS RA, BUR, BUR PLUS RA, DA, DI, DIM TIMES SHE",
    "120C6 CUNEIFORM SIGN GA2 TIMES: DUB, EL, EL PLUS LA, EN, EN TIMES GAN2 TENU, GAN2 TENU, GAR, GI, GI4",
    "120CF CUNEIFORM SIGN GA2 TIMES: GI4 PLUS A, GIR2 PLUS SU, HA PLUS LU PLUS ESH2, HAL, HAL PLUS LA",
    "120D4 CUNEIFORM SIGN GA2 TIMES: HI PLUS LI, HUB2, IGI GUNU, ISH PLUS HU PLUS ASH, KAK, KASKAL, KID",
    "120DB CUNEIFORM SIGN GA2 TIMES: KID PLUS LAL, KU3 PLUS AN, LA, ME PLUS EN, MI, NUN, NUN OVER NUN, PA",
    "120E3 CUNEIFORM SIGN GA2 TIMES: SAL, SAR, SHE, SHE PLUS TUR, SHID, SUM, TAK4, U, UD, UD PLUS DU",
    "120ED CUNEIFORM SIGN: GA2 OVER GA2, GABA, GABA CROSSING GABA, GAD, GAD OVER GAD GAR OVER GAR, GAL",
    "120F3 CUNEIFORM SIGN: GAL GAD OVER GAD GAR OVER GAR, GALAM, GAM, GAN, GAN2, GAN2 TENU, GAN2 OVER GAN2",
    "120FA CUNEIFORM SIGN: GAN2 CROSSING GAN2, GAR, GAR3, GASHAN, GESHTIN, GESHTIN TIMES KUR, GI, GI TIMES E",
    "12102 CUNEIFORM SIGN: GI TIMES U, GI CROSSING GI, GI4, GI4 OVER GI4, GI4 CROSSING GI4, GIDIM, GIR2",
    "12109 CUNEIFORM SIGN: GIR2 GUNU, GIR3, GIR3 TIMES A PLUS IGI, GIR3 TIMES GAN2 TENU, GIR3 TIMES IGI",
    "1210E CUNEIFORM SIGN: GIR3 TIMES LU PLUS IGI, GIR3 TIMES PA, GISAL, GISH, GISH CROSSING GISH",
    "12113 CUNEIFORM SIGN: GISH TIMES BAD, GISH TIMES TAK4, GISH TENU, GU, GU CROSSING GU, GU2, GU2 TIMES KAK",
    "1211A CUNEIFORM SIGN: GU2 TIMES KAK TIMES IGI GUNU, GU2 TIMES NUN, GU2 TIMES SAL PLUS TUG2, GU2 GUNU",
    "1211E CUNEIFORM SIGN: GUD, GUD TIMES A PLUS KUR, GUD TIMES KUR, GUD OVER GUD LUGAL, GUL, GUM",
    "12124 CUNEIFORM SIGN: GUM TIMES SHE, GUR, GUR7, GURUN, GURUSH, HA, HA TENU, HA GUNU, HAL, HI",
    "1212E CUNEIFORM SIGN HI TIMES: ASH, ASH2, BAD, DISH, GAD, KIN, NUN, SHE, U",
    "12137 CUNEIFORM SIGN: HU, HUB2, HUB2 TIMES AN, HUB2 TIMES HAL, HUB2 TIMES KASKAL, HUB2 TIMES LISH",
    "1213D CUNEIFORM SIGN: HUB2 TIMES UD, HUL2, I, I A, IB, IDIM, IDIM OVER IDIM BUR, IDIM OVER IDIM SQUARED",
    "12145 CUNEIFORM SIGN: IG, IGI, IGI DIB, IGI RI, IGI OVER IGI SHIR OVER SHIR UD OVER UD, IGI GUNU, IL",
    "1214C CUNEIFORM SIGN: IL TIMES GAN2 TENU, IL2, IM, IM TIMES TAK4, IM CROSSING IM, IM OPPOSING IM",
    "12152 CUNEIFORM SIGN: IM SQUARED, IMIN, IN, IR, ISH, KA",
    "12158 CUNEIFORM SIGN KA TIMES: A, AD, AD PLUS KU3, ASH2, BAD, BALAG, BAR, BI, ERIN2, ESH2, GA, GAL",
    "12164 CUNEIFORM SIGN KA TIMES: GAN2 TENU, GAR, GAR PLUS SHA3 PLUS A, GI, GIR2, GISH PLUS SAR",
    "1216A CUNEIFORM SIGN KA TIMES: GISH CROSSING GISH, GU, GUR7, IGI, IM, KAK, KI, KID, LI, LU, ME",
    "12175 CUNEIFORM SIGN KA TIMES: ME PLUS DU, ME PLUS GI, ME PLUS TE, MI, MI PLUS NUNUZ, NE, NUN, PI, RU",
    "1217E CUNEIFORM SIGN KA TIMES: SA, SAR, SHA, SHE, SHID, SHU, SIG, SUHUR, TAR, U, U2, UD, UMUM TIMES PA",
    "1218B CUNEIFORM SIGN KA TIMES: USH, ZI",
    "1218D CUNEIFORM SIGN: KA2, KA2 CROSSING KA2, KAB, KAD2, KAD3, KAD4, KAD5, KAD5 OVER KAD5, KAK",
    "12196 CUNEIFORM SIGN: KAK TIMES IGI GUNU, KAL, KAL TIMES BAD, KAL CROSSING KAL, KAM2, KAM4, KASKAL",
    "1219D CUNEIFORM SIGN: KASKAL LAGAB TIMES U OVER LAGAB TIMES U",
    "1219E CUNEIFORM SIGN: KASKAL OVER KASKAL LAGAB TIMES U OVER LAGAB TIMES U, KESH2, KI, KI TIMES BAD",
    "121A2 CUNEIFORM SIGN: KI TIMES U, KI TIMES UD, KID, KIN, KISAL, KISH, KISIM5, KISIM5 OVER KISIM5, KU",
    "121AB CUNEIFORM SIGN: KU OVER HI TIMES ASH2 KU OVER HI TIMES ASH2, KU3, KU4, KU4 VARIANT FORM, KU7, KUL",
    "121B1 CUNEIFORM SIGN: KUL GUNU, KUN, KUR, KUR OPPOSING KUR, KUSHU2, KWU318, LA, LAGAB",
    "121B9 CUNEIFORM SIGN LAGAB TIMES: A, A PLUS DA PLUS HA, A PLUS GAR, A PLUS LAL, AL, AN, ASH ZIDA TENU",
    "121C0 CUNEIFORM SIGN LAGAB TIMES: BAD, BI, DAR, EN, GA, GAR, GUD, GUD PLUS GUD, HA, HAL, HI TIMES NUN",
    "121CB CUNEIFORM SIGN LAGAB TIMES: IGI GUNU, IM, IM PLUS HA, IM PLUS LU, KI, KIN, KU3, KUL",
    "121D3 CUNEIFORM SIGN LAGAB TIMES: KUL PLUS HI PLUS A, LAGAB, LISH, LU, LUL, ME, ME PLUS EN, MUSH, NE",
    "121DC CUNEIFORM SIGN LAGAB TIMES: SHE PLUS SUM, SHITA PLUS GISH PLUS ERIN2, SHITA PLUS GISH TENU, SHU2",
    "121E0 CUNEIFORM SIGN LAGAB TIMES: SHU2 PLUS SHU2, SUM, TAG, TAK4, TE PLUS A PLUS SU PLUS NA, U, U PLUS A",
    "121E7 CUNEIFORM SIGN LAGAB TIMES: U PLUS U PLUS U, U2 PLUS ASH, UD, USH",
    "121EB CUNEIFORM SIGN: LAGAB SQUARED, LAGAR, LAGAR TIMES SHE, LAGAR TIMES SHE PLUS SUM, LAGAR GUNU",
    "121F0 CUNEIFORM SIGN: LAGAR GUNU OVER LAGAR GUNU SHE, LAHSHU, LAL, LAL TIMES LAL, LAM, LAM TIMES KUR",
    "121F6 CUNEIFORM SIGN: LAM TIMES KUR PLUS RU, LI, LIL, LIMMU2, LISH, LU, LU TIMES BAD, LU2",
    "121FE CUNEIFORM SIGN LU2 TIMES: AL, BAD, ESH2, ESH2 TENU, GAN2 TENU, HI TIMES BAD, IM, KAD2, KAD3",
    "12207 CUNEIFORM SIGN LU2 TIMES: KAD3 PLUS ASH, KI, LA PLUS ASH, LAGAB, ME PLUS EN, NE, NU, SI PLUS ASH",
    "1220F CUNEIFORM SIGN LU2 TIMES: SIK2 PLUS BU, TUG2",
    "12211 CUNEIFORM SIGN: LU2 TENU, LU2 CROSSING LU2, LU2 OPPOSING LU2, LU2 SQUARED, LU2 SHESHIG, LU3, LUGAL",
    "12218 CUNEIFORM SIGN: LUGAL OVER LUGAL, LUGAL OPPOSING LUGAL, LUGAL SHESHIG, LUH, LUL, LUM, LUM OVER LUM",
    "1221F CUNEIFORM SIGN: LUM OVER LUM GAR OVER GAR, MA, MA TIMES TAK4, MA GUNU, MA2, MAH, MAR, MASH, MASH2",
    "12228 CUNEIFORM SIGN: ME, MES, MI, MIN, MU, MU OVER MU, MUG, MUG GUNU, MUNSUB, MURGU2, MUSH",
    "12233 CUNEIFORM SIGN: MUSH TIMES A, MUSH TIMES KUR, MUSH TIMES ZA, MUSH OVER MUSH",
    "12237 CUNEIFORM SIGN: MUSH OVER MUSH TIMES A PLUS NA, MUSH CROSSING MUSH, MUSH3, MUSH3 TIMES A",
    "1223B CUNEIFORM SIGN: MUSH3 TIMES A PLUS DI, MUSH3 TIMES DI, MUSH3 GUNU, NA, NA2, NAGA, NAGA INVERTED",
    "12242 CUNEIFORM SIGN: NAGA TIMES SHU TENU, NAGA OPPOSING NAGA, NAGAR, NAM NUTILLU, NAM, NAM2, NE",
    "12249 CUNEIFORM SIGN: NE TIMES A, NE TIMES UD, NE SHESHIG, NI, NI TIMES E, NI2, NIM, NIM TIMES GAN2 TENU",
    "12251 CUNEIFORM SIGN: NIM TIMES GAR PLUS GAN2 TENU, NINDA2",
    "12253 CUNEIFORM SIGN NINDA2 TIMES: AN, ASH, ASH PLUS ASH, GUD, ME PLUS GAN2 TENU, NE, NUN, SHE",
    "1225B CUNEIFORM SIGN NINDA2 TIMES: SHE PLUS A AN, SHE PLUS ASH, SHE PLUS ASH PLUS ASH, U2 PLUS ASH, USH",
    "12260 CUNEIFORM SIGN: NISAG, NU, NU11, NUN",
    "12264 CUNEIFORM SIGN NUN LAGAR TIMES: GAR, MASH, SAL, SAL OVER NUN LAGAR TIMES SAL, USH",
    "12269 CUNEIFORM SIGN: NUN TENU, NUN OVER NUN, NUN CROSSING NUN, NUN CROSSING NUN LAGAR OVER LAGAR, NUNUZ",
    "1226E CUNEIFORM SIGN NUNUZ AB2 TIMES: ASHGAB, BI, DUG, GUD, IGI GUNU, KAD3, LA, NE, SILA3, U2",
    "12278 CUNEIFORM SIGN: NUNUZ KISIM5 TIMES BI, NUNUZ KISIM5 TIMES BI U, PA, PAD, PAN, PAP, PESH2, PI",
    "12280 CUNEIFORM SIGN PI TIMES: A, AB, BI, BU, E, I, IB, U, U2",
    "12289 CUNEIFORM SIGN: PI CROSSING PI, PIRIG, PIRIG TIMES KAL, PIRIG TIMES UD, PIRIG TIMES ZA",
    "1228E CUNEIFORM SIGN: PIRIG OPPOSING PIRIG, RA, RAB, RI, RU, SA, SAG NUTILLU, SAG",
    "12296 CUNEIFORM SIGN SAG TIMES: A, DU, DUB, HA, KAK, KUR, LUM, MI, NUN, SAL, SHID, TAB, U2, UB, UM, UR",
    "122A6 CUNEIFORM SIGN SAG TIMES: USH",
    "122A7 CUNEIFORM SIGN: SAG OVER SAG, SAG GUNU, SAL, SAL LAGAB TIMES ASH2, SANGA2, SAR, SHA, SHA3",
    "122AF CUNEIFORM SIGN SHA3 TIMES: A, BAD, GISH, NE, SHU2, TUR, U, U PLUS A",
    "122B7 CUNEIFORM SIGN: SHA6, SHAB6, SHAR2, SHE, SHE HU, SHE OVER SHE GAD OVER GAD GAR OVER GAR",
    "122BD CUNEIFORM SIGN: SHE OVER SHE TAB OVER TAB GAR OVER GAR, SHEG9, SHEN, SHESH, SHESH2, SHESHLAM, SHID",
    "122C4 CUNEIFORM SIGN: SHID TIMES A, SHID TIMES IM, SHIM",
    "122C7 CUNEIFORM SIGN SHIM TIMES: A, BAL, BULUG, DIN, GAR, IGI, IGI GUNU, KUSHU2, LUL, MUG, SAL",
    "122D2 CUNEIFORM SIGN: SHINIG, SHIR, SHIR TENU, SHIR OVER SHIR BUR OVER BUR, SHITA, SHU",
    "122D8 CUNEIFORM SIGN: SHU OVER INVERTED SHU, SHU2, SHUBUR, SI, SI GUNU, SIG, SIG4, SIG4 OVER SIG4 SHU2",
    "122E0 CUNEIFORM SIGN: SIK2, SILA3, SU, SU OVER SU, SUD, SUD2, SUHUR, SUM, SUMASH, SUR, SUR9, TA",
    "122EC CUNEIFORM SIGN: TA ASTERISK, TA TIMES HI, TA TIMES MI, TA GUNU, TAB",
    "122F1 CUNEIFORM SIGN: TAB OVER TAB NI OVER NI DISH OVER DISH, TAB SQUARED, TAG",
    "122F4 CUNEIFORM SIGN TAG TIMES: BI, GUD, SHE, SHU, TUG2, UD",
    "122FA CUNEIFORM SIGN: TAK4, TAR, TE, TE GUNU, TI, TI TENU, TIL, TIR, TIR TIMES TAK4, TIR OVER TIR",
    "12304 CUNEIFORM SIGN: TIR OVER TIR GAD OVER GAD GAR OVER GAR, TU, TUG2, TUK, TUM, TUR",
    "1230A CUNEIFORM SIGN: TUR OVER TUR ZA OVER ZA, U, U GUD, U U U, U OVER U PA OVER PA GAR OVER GAR",
    "1230F CUNEIFORM SIGN: U OVER U SUR OVER SUR, U OVER U U REVERSED OVER U REVERSED, U2, UB, UD, UD KUSHU2",
    "12315 CUNEIFORM SIGN: UD TIMES BAD, UD TIMES MI, UD TIMES U PLUS U PLUS U, UD TIMES U PLUS U PLUS U GUNU",
    "12319 CUNEIFORM SIGN: UD GUNU, UD SHESHIG, UD SHESHIG TIMES BAD, UDUG, UM, UM TIMES LAGAB",
    "1231F CUNEIFORM SIGN: UM TIMES ME PLUS DA, UM TIMES SHA3, UM TIMES U, UMBIN, UMUM, UMUM TIMES KASKAL",
    "12325 CUNEIFORM SIGN: UMUM TIMES PA, UN, UN GUNU, UR, UR CROSSING UR, UR SHESHIG, UR2",
    "1232C CUNEIFORM SIGN UR2 TIMES: A PLUS HA, A PLUS NA, AL, HA, NUN, U2, U2 PLUS ASH, U2 PLUS BI",
    "12334 CUNEIFORM SIGN: UR4, URI, URI3, URU",
    "12338 CUNEIFORM SIGN URU TIMES: A, ASHGAB, BAR, DUN, GA, GAL, GAN2 TENU, GAR, GU, HA, IGI, IM, ISH, KI",
    "12346 CUNEIFORM SIGN URU TIMES: LUM, MIN, PA, SHE, SIG4, TU, U PLUS GUD, UD, URUDA",
    "1234F CUNEIFORM SIGN: URUDA, URUDA TIMES U, USH, USH TIMES A, USH TIMES KU, USH TIMES KUR",
    "12355 CUNEIFORM SIGN: USH TIMES TAK4, USHX, USH2, USHUMX, UTUKI, UZ3, UZ3 TIMES KASKAL, UZU, ZA, ZA TENU",
    "1235F CUNEIFORM SIGN: ZA SQUARED TIMES KUR, ZAG, ZAMX, ZE2, ZI, ZI OVER ZI, ZI3, ZIB, ZIB KABA TENU, ZIG",
    "12369 CUNEIFORM SIGN: ZIZ2, ZU, ZU5, ZU5 TIMES A, ZUBUR, ZUM, KAP ELAMITE, AB TIMES NUN, AB2 TIMES A",
    "12372 CUNEIFORM SIGN: AMAR TIMES KUG, DAG KISIM5 TIMES U2 PLUS MASH, DAG3, DISH PLUS SHU, DUB TIMES SHE",
    "12377 CUNEIFORM SIGN: EZEN TIMES GUD, EZEN TIMES SHE, GA2 TIMES AN PLUS KAK PLUS A, GA2 TIMES ASH2, GE22",
    "1237C CUNEIFORM SIGN: GIG, HUSH",
    "1237E CUNEIFORM SIGN KA TIMES: ANSHE, ASH3, GISH, GUD, HI TIMES ASH2, LUM, PA, SHUL, TU, UR2",
    "12388 CUNEIFORM SIGN: LAGAB TIMES GI, LU2 SHESHIG TIMES BAD, LU2 TIMES ESH2 PLUS LAL, LU2 TIMES SHU",
    "1238C CUNEIFORM SIGN: MESH, MUSH3 TIMES ZA, NA4, NIN, NIN9, NINDA2 TIMES BAL, NINDA2 TIMES GI",
    "12393 CUNEIFORM SIGN: NU11 ROTATED NINETY DEGREES, PESH2 ASTERISK, PIR2, SAG TIMES IGI GUNU, TI2",
    "12398 CUNEIFORM SIGN: UM TIMES ME, U U",
    "12400 CUNEIFORM NUMERIC SIGN: TWO ASH, THREE ASH, FOUR ASH, FIVE ASH, SIX ASH, SEVEN ASH, EIGHT ASH",
    "12407 CUNEIFORM NUMERIC SIGN: NINE ASH, THREE DISH, FOUR DISH, FIVE DISH, SIX DISH, SEVEN DISH",
    "1240D CUNEIFORM NUMERIC SIGN: EIGHT DISH, NINE DISH, FOUR U, FIVE U, SIX U, SEVEN U, EIGHT U, NINE U",
    "12415 CUNEIFORM NUMERIC SIGN: ONE GESH2, TWO GESH2, THREE GESH2, FOUR GESH2, FIVE GESH2, SIX GESH2",
    "1241B CUNEIFORM NUMERIC SIGN: SEVEN GESH2, EIGHT GESH2, NINE GESH2, ONE GESHU, TWO GESHU, THREE GESHU",
    "12421 CUNEIFORM NUMERIC SIGN: FOUR GESHU, FIVE GESHU, TWO SHAR2, THREE SHAR2, THREE SHAR2 VARIANT FORM",
    "12426 CUNEIFORM NUMERIC SIGN: FOUR SHAR2, FIVE SHAR2, SIX SHAR2, SEVEN SHAR2, EIGHT SHAR2, NINE SHAR2",
    "1242C CUNEIFORM NUMERIC SIGN: ONE SHARU, TWO SHARU, THREE SHARU, THREE SHARU VARIANT FORM, FOUR SHARU",
    "12431 CUNEIFORM NUMERIC SIGN: FIVE SHARU, SHAR2 TIMES GAL PLUS DISH, SHAR2 TIMES GAL PLUS MIN, ONE BURU",
    "12435 CUNEIFORM NUMERIC SIGN: TWO BURU, THREE BURU, THREE BURU VARIANT FORM, FOUR BURU, FIVE BURU",
    "1243A CUNEIFORM NUMERIC SIGN: THREE VARIANT FORM ESH16, THREE VARIANT FORM ESH21",
    "1243C CUNEIFORM NUMERIC SIGN: FOUR VARIANT FORM LIMMU, FOUR VARIANT FORM LIMMU4",
    "1243E CUNEIFORM NUMERIC SIGN: FOUR VARIANT FORM LIMMU A, FOUR VARIANT FORM LIMMU B",
    "12440 CUNEIFORM NUMERIC SIGN: SIX VARIANT FORM ASH9, SEVEN VARIANT FORM IMIN3, SEVEN VARIANT FORM IMIN A",
    "12443 CUNEIFORM NUMERIC SIGN: SEVEN VARIANT FORM IMIN B, EIGHT VARIANT FORM USSU",
    "12445 CUNEIFORM NUMERIC SIGN: EIGHT VARIANT FORM USSU3, NINE VARIANT FORM ILIMMU",
    "12447 CUNEIFORM NUMERIC SIGN: NINE VARIANT FORM ILIMMU3, NINE VARIANT FORM ILIMMU4",
    "12449 CUNEIFORM NUMERIC SIGN: NINE VARIANT FORM ILIMMU A, TWO ASH TENU, THREE ASH TENU, FOUR ASH TENU",
    "1244D CUNEIFORM NUMERIC SIGN: FIVE ASH TENU, SIX ASH TENU, ONE BAN2, TWO BAN2, THREE BAN2, FOUR BAN2",
    "12453 CUNEIFORM NUMERIC SIGN: FOUR BAN2 VARIANT FORM, FIVE BAN2, FIVE BAN2 VARIANT FORM, NIGIDAMIN",
    "12457 CUNEIFORM NUMERIC SIGN: NIGIDAESH, ONE ESHE3, TWO ESHE3, ONE THIRD DISH, TWO THIRDS DISH",
    "1245C CUNEIFORM NUMERIC SIGN: FIVE SIXTHS DISH, ONE THIRD VARIANT FORM A, TWO THIRDS VARIANT FORM A",
    "1245F CUNEIFORM NUMERIC SIGN: ONE EIGHTH ASH, ONE QUARTER ASH, OLD ASSYRIAN ONE SIXTH",
    "12462 CUNEIFORM NUMERIC SIGN: OLD ASSYRIAN ONE QUARTER, ONE QUARTER GUR, ONE HALF GUR, ELAMITE ONE THIRD",
    "12466 CUNEIFORM NUMERIC SIGN: ELAMITE TWO THIRDS, ELAMITE FORTY, ELAMITE FIFTY, FOUR U VARIANT FORM",
    "1246A CUNEIFORM NUMERIC SIGN: FIVE U VARIANT FORM, SIX U VARIANT FORM, SEVEN U VARIANT FORM",
    "1246D CUNEIFORM NUMERIC SIGN: EIGHT U VARIANT FORM, NINE U VARIANT FORM",
    "12470 CUNEIFORM PUNCTUATION SIGN: OLD ASSYRIAN WORD DIVIDER, VERTICAL COLON, DIAGONAL COLON",
    "12473 CUNEIFORM PUNCTUATION SIGN: DIAGONAL TRICOLON, DIAGONAL QUADCOLON",
    "12480 CUNEIFORM SIGN: AB TIMES NUN TENU, AB TIMES SHU2, AD TIMES ESH2, BAD TIMES DISH TENU",
    "12484 CUNEIFORM SIGN: BAHAR2 TIMES AB2, BAHAR2 TIMES NI, BAHAR2 TIMES ZA, BU OVER BU TIMES NA2",
    "12488 CUNEIFORM SIGN: DA TIMES TAK4, DAG TIMES KUR, DIM TIMES IGI, DIM TIMES U U U, DIM2 TIMES UD",
    "1248D CUNEIFORM SIGN DUG TIMES: ANSHE, ASH, ASH AT LEFT, DIN, DUN, ERIN2, GA, GI, GIR2 GUNU, GISH, HA",
    "12498 CUNEIFORM SIGN DUG TIMES: HI, IGI GUNU, KASKAL, KUR, KUSHU2, KUSHU2 PLUS KASKAL, LAK-020, LAM",
    "124A0 CUNEIFORM SIGN DUG TIMES: LAM TIMES KUR, LUH PLUS GISH, MASH, MES, MI, NI, PI, SHE, SI GUNU",
    "124A9 CUNEIFORM SIGN: E2 TIMES KUR, E2 TIMES PAP, ERIN2 X, ESH2 CROSSING ESH2",
    "124AD CUNEIFORM SIGN EZEN SHESHIG TIMES: ASH, HI, IGI GUNU, LA, LAL, ME, MES, SU",
    "124B5 CUNEIFORM SIGN EZEN TIMES: SU",
    "124B6 CUNEIFORM SIGN GA2 TIMES: BAHAR2, DIM GUNU, DUG TIMES IGI GUNU, DUG TIMES KASKAL, EREN, GA",
    "124BC CUNEIFORM SIGN GA2 TIMES: GAR PLUS DI, GAR PLUS NE, HA PLUS A, KUSHU2 PLUS KASKAL, LAM",
    "124C1 CUNEIFORM SIGN GA2 TIMES: LAM TIMES KUR, LUH, MUSH, NE, NE PLUS E2, NE PLUS GI, SHIM, ZIZ2",
    "124C9 CUNEIFORM SIGN: GABA ROTATED NINETY DEGREES, GESHTIN TIMES U, GISH TIMES GISH CROSSING GISH",
    "124CC CUNEIFORM SIGN: GU2 TIMES IGI GUNU, GUD PLUS GISH TIMES TAK4, HA TENU GUNU",
    "124CF CUNEIFORM SIGN: HI TIMES ASH OVER HI TIMES ASH, KA TIMES BU, KA TIMES KA, KA TIMES U U U",
    "124D3 CUNEIFORM SIGN: KA TIMES UR, LAGAB TIMES ZU OVER ZU, LAK-003, LAK-021, LAK-025, LAK-030, LAK-050",
    "124DA CUNEIFORM SIGN: LAK-051, LAK-062, LAK-079 OVER LAK-079 GUNU, LAK-080, LAK-081 OVER LAK-081",
    "124DF CUNEIFORM SIGN: LAK-092, LAK-130, LAK-142, LAK-210, LAK-219, LAK-220, LAK-225, LAK-228, LAK-238",
    "124E8 CUNEIFORM SIGN: LAK-265, LAK-266, LAK-343, LAK-347, LAK-348, LAK-383, LAK-384, LAK-390, LAK-441",
    "124F1 CUNEIFORM SIGN: LAK-449",
    "124F2 CUNEIFORM SIGN LAK-449 TIMES: GU, IGI, PAP PLUS LU3, PAP PLUS PAP PLUS LU3, U2 PLUS BA",
    "124F7 CUNEIFORM SIGN: LAK-450, LAK-457, LAK-470, LAK-483, LAK-490, LAK-492, LAK-493, LAK-495, LAK-550",
    "12500 CUNEIFORM SIGN: LAK-608, LAK-617",
    "12502 CUNEIFORM SIGN LAK-617 TIMES: ASH, BAD, DUN3 GUNU GUNU, KU3, LA, TAR, TE, U2, UD, URUDA",
    "1250C CUNEIFORM SIGN: LAK-636, LAK-648",
    "1250E CUNEIFORM SIGN LAK-648 TIMES: DUB, GA, IGI, IGI GUNU, NI, PAP PLUS PAP PLUS LU3, SHESH PLUS KI, UD",
    "12516 CUNEIFORM SIGN LAK-648 TIMES: URUDA",
    "12517 CUNEIFORM SIGN: LAK-724, LAK-749, LU2 GUNU TIMES ASH, LU2 TIMES DISH, LU2 TIMES HAL, LU2 TIMES PAP",
    "1251D CUNEIFORM SIGN: LU2 TIMES PAP PLUS PAP PLUS LU3, LU2 TIMES TAK4, MI PLUS ZA7",
    "12520 CUNEIFORM SIGN: MUSH OVER MUSH TIMES GA, MUSH OVER MUSH TIMES KAK",
    "12522 CUNEIFORM SIGN NINDA2 TIMES: DIM GUNU, GISH, GUL, HI, KESH2, LAK-050, MASH, PAP PLUS PAP, U",
    "1252B CUNEIFORM SIGN NINDA2 TIMES: U PLUS U, URUDA",
    "1252D CUNEIFORM SIGN: SAG GUNU TIMES HA, SAG TIMES EN, SAG TIMES SHE AT LEFT, SAG TIMES TAK4, SHA6 TENU",
    "12532 CUNEIFORM SIGN: SHE OVER SHE, SHE PLUS HUB2, SHE PLUS NAM2, SHE PLUS SAR, SHU2 PLUS DUG TIMES NI",
    "12537 CUNEIFORM SIGN: SHU2 PLUS E2 TIMES AN, SI TIMES TAK4, TAK4 PLUS SAG, TUM TIMES GAN2 TENU",
    "1253B CUNEIFORM SIGN: TUM TIMES THREE DISH, UR2 INVERTED, UR2 TIMES UD, URU TIMES DARA3",
    "1253F CUNEIFORM SIGN: URU TIMES LAK-668, URU TIMES LU3, ZA7, ZU OVER ZU PLUS SAR",
    "12543 CUNEIFORM SIGN: ZU5 TIMES THREE DISH TENU",
    "12F90 CYPRO-MINOAN SIGN: CM001, CM002, CM004, CM005, CM006, CM007, CM008, CM009, CM010, CM011, CM012",
    "12F9B CYPRO-MINOAN SIGN: CM012B, CM013, CM015, CM017, CM019, CM021, CM023, CM024, CM025, CM026, CM027",
    "12FA6 CYPRO-MINOAN SIGN: CM028, CM029, CM030, CM033, CM034, CM035, CM036, CM037, CM038, CM039, CM040",
    "12FB1 CYPRO-MINOAN SIGN: CM041, CM044, CM046, CM047, CM049, CM050, CM051, CM052, CM053, CM054, CM055",
    "12FBC CYPRO-MINOAN SIGN: CM056, CM058, CM059, CM060, CM061, CM062, CM063, CM064, CM066, CM067, CM068",
    "12FC7 CYPRO-MINOAN SIGN: CM069, CM070, CM071, CM072, CM073, CM074, CM075, CM075B, CM076, CM078, CM079",
    "12FD2 CYPRO-MINOAN SIGN: CM080, CM081, CM082, CM083, CM084, CM085, CM086, CM087, CM088, CM089, CM090",
    "12FDD CYPRO-MINOAN SIGN: CM091, CM092, CM094, CM095, CM096, CM097, CM098, CM099, CM100, CM101, CM102",
    "12FE8 CYPRO-MINOAN SIGN: CM103, CM104, CM105, CM107, CM108, CM109, CM110, CM112, CM114, CM301, CM302",
    "13000 EGYPTIAN HIEROGLYPH: A001, A002, A003, A004, A005, A005A, A006, A006A, A006B, A007, A008, A009",
    "1300C EGYPTIAN HIEROGLYPH: A010, A011, A012, A013, A014, A014A, A015, A016, A017, A017A, A018, A019",
    "13018 EGYPTIAN HIEROGLYPH: A020, A021, A022, A023, A024, A025, A026, A027, A028, A029, A030, A031, A032",
    "13025 EGYPTIAN HIEROGLYPH: A032A, A033, A034, A035, A036, A037, A038, A039, A040, A040A, A041, A042",
    "13031 EGYPTIAN HIEROGLYPH: A042A, A043, A043A, A044, A045, A045A, A046, A047, A048, A049, A050, A051",
    "1303D EGYPTIAN HIEROGLYPH: A052, A053, A054, A055, A056, A057, A058, A059, A060, A061, A062, A063, A064",
    "1304A EGYPTIAN HIEROGLYPH: A065, A066, A067, A068, A069, A070, B001, B002, B003, B004, B005, B005A, B006",
    "13057 EGYPTIAN HIEROGLYPH: B007, B008, B009, C001, C002, C002A, C002B, C002C, C003, C004, C005, C006",
    "13063 EGYPTIAN HIEROGLYPH: C007, C008, C009, C010, C010A, C011, C012, C013, C014, C015, C016, C017, C018",
    "13070 EGYPTIAN HIEROGLYPH: C019, C020, C021, C022, C023, C024, D001, D002, D003, D004, D005, D006, D007",
    "1307D EGYPTIAN HIEROGLYPH: D008, D008A, D009, D010, D011, D012, D013, D014, D015, D016, D017, D018, D019",
    "1308A EGYPTIAN HIEROGLYPH: D020, D021, D022, D023, D024, D025, D026, D027, D027A, D028, D029, D030, D031",
    "13097 EGYPTIAN HIEROGLYPH: D031A, D032, D033, D034, D034A, D035, D036, D037, D038, D039, D040, D041",
    "130A3 EGYPTIAN HIEROGLYPH: D042, D043, D044, D045, D046, D046A, D047, D048",
    "130AB EGYPTIAN HIEROGLYPH: D048A, D049, D050, D050A, D050B, D050C, D050D, D050E, D050F, D050G, D050H",
    "130B6 EGYPTIAN HIEROGLYPH: D050I, D051, D052, D052A, D053, D054, D054A, D055, D056, D057, D058, D059",
    "130C2 EGYPTIAN HIEROGLYPH: D060, D061, D062, D063, D064, D065, D066, D067, D067A, D067B, D067C, D067D",
    "130CE EGYPTIAN HIEROGLYPH: D067E, D067F, D067G, D067H, E001, E002, E003, E004, E005, E006, E007, E008",
    "130DA EGYPTIAN HIEROGLYPH: E008A, E009, E009A, E010, E011, E012, E013, E014, E015, E016, E016A, E017",
    "130E6 EGYPTIAN HIEROGLYPH: E017A, E018, E019, E020, E020A, E021, E022, E023, E024, E025, E026, E027",
    "130F2 EGYPTIAN HIEROGLYPH: E028, E028A, E029, E030, E031, E032, E033, E034, E034A, E036, E037, E038",
    "130FE EGYPTIAN HIEROGLYPH: F001, F001A, F002, F003, F004, F005, F006, F007, F008, F009, F010, F011, F012",
    "1310B EGYPTIAN HIEROGLYPH: F013, F013A, F014, F015, F016, F017, F018, F019, F020, F021, F021A, F022",
    "13117 EGYPTIAN HIEROGLYPH: F023, F024, F025, F026, F027, F028, F029, F030, F031, F031A, F032, F033, F034",
    "13124 EGYPTIAN HIEROGLYPH: F035, F036, F037, F037A, F038, F038A, F039, F040, F041, F042, F043, F044",
    "13130 EGYPTIAN HIEROGLYPH: F045, F045A, F046, F046A, F047, F047A, F048, F049, F050, F051, F051A, F051B",
    "1313C EGYPTIAN HIEROGLYPH: F051C, F052, F053, G001, G002, G003, G004, G005, G006, G006A, G007, G007A",
    "13148 EGYPTIAN HIEROGLYPH: G007B, G008, G009, G010, G011, G011A, G012, G013, G014, G015, G016, G017",
    "13154 EGYPTIAN HIEROGLYPH: G018, G019, G020, G020A, G021, G022, G023, G024, G025, G026, G026A, G027",
    "13160 EGYPTIAN HIEROGLYPH: G028, G029, G030, G031, G032, G033, G034, G035, G036, G036A, G037, G037A",
    "1316C EGYPTIAN HIEROGLYPH: G038, G039, G040, G041, G042, G043, G043A, G044, G045, G045A, G046, G047",
    "13178 EGYPTIAN HIEROGLYPH: G048, G049, G050, G051, G052, G053, G054, H001, H002, H003, H004, H005, H006",
    "13185 EGYPTIAN HIEROGLYPH: H006A, H007, H008, I001, I002, I003, I004, I005, I005A, I006, I007, I008",
    "13191 EGYPTIAN HIEROGLYPH: I009, I009A, I010, I010A, I011, I011A, I012, I013, I014, I015, K001, K002",
    "1319D EGYPTIAN HIEROGLYPH: K003, K004, K005, K006, K007, K008, L001, L002, L002A, L003, L004, L005, L006",
    "131AA EGYPTIAN HIEROGLYPH: L006A, L007, L008, M001, M001A, M001B, M002, M003, M003A, M004, M005, M006",
    "131B6 EGYPTIAN HIEROGLYPH: M007, M008, M009, M010, M010A, M011, M012, M012A, M012B, M012C, M012D, M012E",
    "131C2 EGYPTIAN HIEROGLYPH: M012F, M012G, M012H, M013, M014, M015, M015A, M016, M016A, M017, M017A, M018",
    "131CE EGYPTIAN HIEROGLYPH: M019, M020, M021, M022, M022A, M023, M024, M024A, M025",
    "131D7 EGYPTIAN HIEROGLYPH: M026, M027, M028, M028A, M029, M030, M031, M031A, M032, M033, M033A, M033B",
    "131E3 EGYPTIAN HIEROGLYPH: M034, M035, M036, M037, M038, M039, M040, M040A, M041, M042, M043, M044, N001",
    "131F0 EGYPTIAN HIEROGLYPH: N002, N003, N004, N005, N006, N007, N008, N009, N010, N011, N012, N013, N014",
    "131FD EGYPTIAN HIEROGLYPH: N015, N016, N017, N018, N018A, N018B, N019, N020, N021, N022, N023, N024",
    "13209 EGYPTIAN HIEROGLYPH: N025, N025A, N026, N027, N028, N029, N030, N031, N032, N033, N033A, N034",
    "13215 EGYPTIAN HIEROGLYPH: N034A, N035, N035A, N036, N037, N037A, N038, N039, N040, N041, N042, NL001",
    "13221 EGYPTIAN HIEROGLYPH: NL002, NL003, NL004, NL005, NL005A, NL006, NL007, NL008, NL009, NL010, NL011",
    "1322C EGYPTIAN HIEROGLYPH: NL012, NL013, NL014, NL015, NL016, NL017, NL017A, NL018, NL019, NL020, NU001",
    "13237 EGYPTIAN HIEROGLYPH: NU002, NU003, NU004, NU005, NU006, NU007, NU008, NU009, NU010, NU010A, NU011",
    "13242 EGYPTIAN HIEROGLYPH: NU011A, NU012, NU013, NU014, NU015, NU016, NU017, NU018, NU018A, NU019, NU020",
    "1324D EGYPTIAN HIEROGLYPH: NU021, NU022, NU022A, O001, O001A, O002, O003, O004, O005, O005A, O006, O006A",
    "13259 EGYPTIAN HIEROGLYPH: O006B, O006C, O006D, O006E, O006F, O007, O008, O009, O010, O010A, O010B",
    "13264 EGYPTIAN HIEROGLYPH: O010C, O011, O012, O013, O014, O015, O016, O017, O018, O019, O019A, O020",
    "13270 EGYPTIAN HIEROGLYPH: O020A, O021, O022, O023, O024, O024A, O025, O025A, O026, O027, O028, O029",
    "1327C EGYPTIAN HIEROGLYPH: O029A, O030, O030A, O031, O032, O033, O033A, O034, O035, O036, O036A, O036B",
    "13288 EGYPTIAN HIEROGLYPH: O036C, O036D, O037, O038, O039, O040, O041, O042, O043, O044, O045, O046",
    "13294 EGYPTIAN HIEROGLYPH: O047, O048, O049, O050, O050A, O050B, O051, P001, P001A, P002, P003, P003A",
    "132A0 EGYPTIAN HIEROGLYPH: P004, P005, P006, P007, P008, P009, P010, P011, Q001, Q002, Q003, Q004, Q005",
    "132AD EGYPTIAN HIEROGLYPH: Q006, Q007, R001, R002, R002A, R003, R003A, R003B, R004, R005, R006, R007",
    "132B9 EGYPTIAN HIEROGLYPH: R008, R009, R010, R010A, R011, R012, R013, R014, R015, R016, R016A, R017",
    "132C5 EGYPTIAN HIEROGLYPH: R018, R019, R020, R021, R022, R023, R024, R025, R026, R027, R028, R029, S001",
    "132D2 EGYPTIAN HIEROGLYPH: S002, S002A, S003, S004, S005, S006, S006A, S007, S008, S009, S010, S011",
    "132DE EGYPTIAN HIEROGLYPH: S012, S013, S014, S014A, S014B, S015, S016, S017, S017A, S018, S019, S020",
    "132EA EGYPTIAN HIEROGLYPH: S021, S022, S023, S024, S025, S026, S026A, S026B, S027, S028, S029, S030",
    "132F6 EGYPTIAN HIEROGLYPH: S031, S032, S033, S034, S035, S035A, S036, S037, S038, S039, S040, S041, S042",
    "13303 EGYPTIAN HIEROGLYPH: S043, S044, S045, S046, T001, T002, T003, T003A, T004, T005, T006, T007",
    "1330F EGYPTIAN HIEROGLYPH: T007A, T008, T008A, T009, T009A, T010, T011, T011A, T012, T013, T014, T015",
    "1331B EGYPTIAN HIEROGLYPH: T016, T016A, T017, T018, T019, T020, T021, T022, T023, T024, T025, T026, T027",
    "13328 EGYPTIAN HIEROGLYPH: T028, T029, T030, T031, T032, T032A, T033, T033A, T034, T035, T036, U001",
    "13334 EGYPTIAN HIEROGLYPH: U002, U003, U004, U005, U006, U006A, U006B, U007, U008, U009, U010, U011",
    "13340 EGYPTIAN HIEROGLYPH: U012, U013, U014, U015, U016, U017, U018, U019, U020, U021, U022, U023, U023A",
    "1334D EGYPTIAN HIEROGLYPH: U024, U025, U026, U027, U028, U029, U029A, U030, U031, U032, U032A, U033",
    "13359 EGYPTIAN HIEROGLYPH: U034, U035, U036, U037, U038, U039, U040, U041, U042, V001, V001A, V001B",
    "13365 EGYPTIAN HIEROGLYPH: V001C, V001D, V001E, V001F, V001G, V001H, V001I, V002, V002A, V003, V004",
    "13370 EGYPTIAN HIEROGLYPH: V005, V006, V007, V007A, V007B, V008, V009, V010, V011, V011A, V011B, V011C",
    "1337C EGYPTIAN HIEROGLYPH: V012, V012A, V012B, V013, V014, V015, V016, V017, V018, V019, V020, V020A",
    "13388 EGYPTIAN HIEROGLYPH: V020B, V020C, V020D, V020E, V020F, V020G, V020H, V020I, V020J, V020K, V020L",
    "13393 EGYPTIAN HIEROGLYPH: V021, V022, V023, V023A, V024, V025, V026, V027, V028, V028A, V029, V029A",
    "1339F EGYPTIAN HIEROGLYPH: V030, V030A, V031, V031A, V032, V033, V033A, V034, V035, V036, V037, V037A",
    "133AB EGYPTIAN HIEROGLYPH: V038, V039, V040, V040A, W001, W002, W003, W003A, W004, W005, W006, W007",
    "133B7 EGYPTIAN HIEROGLYPH: W008, W009, W009A, W010, W010A, W011, W012, W013, W014, W014A, W015, W016",
    "133C3 EGYPTIAN HIEROGLYPH: W017, W017A, W018, W018A, W019, W020, W021, W022, W023, W024, W024A, W025",
    "133CF EGYPTIAN HIEROGLYPH: X001, X002, X003, X004, X004A, X004B, X005, X006, X006A, X007, X008, X008A",
    "133DB EGYPTIAN HIEROGLYPH: Y001, Y001A, Y002, Y003, Y004, Y005, Y006, Y007, Y008, Z001, Z002, Z002A",
    "133E7 EGYPTIAN HIEROGLYPH: Z002B, Z002C, Z002D, Z003, Z003A, Z003B, Z004, Z004A, Z005, Z005A, Z006, Z007",
    "133F3 EGYPTIAN HIEROGLYPH: Z008, Z009, Z010, Z011, Z012, Z013, Z014, Z015, Z015A, Z015B, Z015C, Z015D",
    "133FF EGYPTIAN HIEROGLYPH: Z015E, Z015F, Z015G, Z015H, Z015I, Z016, Z016A, Z016B, Z016C, Z016D, Z016E",
    "1340A EGYPTIAN HIEROGLYPH: Z016F, Z016G, Z016H, AA001, AA002, AA003, AA004, AA005, AA006, AA007, AA007A",
    "13415 EGYPTIAN HIEROGLYPH: AA007B, AA008, AA009, AA010, AA011, AA012, AA013, AA014, AA015, AA016, AA017",
    "13420 EGYPTIAN HIEROGLYPH: AA018, AA019, AA020, AA021, AA022, AA023, AA024, AA025, AA026, AA027, AA028",
    "1342B EGYPTIAN HIEROGLYPH: AA029, AA030, AA031, AA032",
    "13430 EGYPTIAN HIEROGLYPH: VERTICAL JOINER, HORIZONTAL JOINER, INSERT AT TOP START",
    "13433 EGYPTIAN HIEROGLYPH: INSERT AT BOTTOM START, INSERT AT TOP END, INSERT AT BOTTOM END",
    "13436 EGYPTIAN HIEROGLYPH: OVERLAY MIDDLE, BEGIN SEGMENT, END SEGMENT",
    "14400 ANATOLIAN HIEROGLYPH: A001, A002, A003, A004, A005, A006, A007, A008, A009, A010, A010A, A011",
    "1440C ANATOLIAN HIEROGLYPH: A012, A013, A014, A015, A016, A017, A018, A019, A020, A021, A022, A023, A024",
    "14419 ANATOLIAN HIEROGLYPH: A025, A026, A026A, A027, A028, A029, A030, A031, A032, A033, A034, A035",
    "14425 ANATOLIAN HIEROGLYPH: A036, A037, A038, A039, A039A, A040, A041, A041A, A042, A043, A044, A045",
    "14431 ANATOLIAN HIEROGLYPH: A045A, A046, A046A, A046B, A047, A048, A049, A050, A051, A052, A053, A054",
    "1443D ANATOLIAN HIEROGLYPH: A055, A056, A057, A058, A059, A060, A061, A062, A063, A064, A065, A066",
    "14449 ANATOLIAN HIEROGLYPH: A066A, A066B, A066C, A067, A068, A069, A070, A071, A072, A073, A074, A075",
    "14455 ANATOLIAN HIEROGLYPH: A076, A077, A078, A079, A080, A081, A082, A083, A084, A085, A086, A087, A088",
    "14462 ANATOLIAN HIEROGLYPH: A089, A090, A091, A092, A093, A094, A095, A096, A097, A097A, A098, A098A",
    "1446E ANATOLIAN HIEROGLYPH: A099, A100, A100A, A101, A101A, A102, A102A, A103, A104, A104A, A104B, A104C",
    "1447A ANATOLIAN HIEROGLYPH: A105, A105A, A105B, A106, A107, A107A, A107B, A107C, A108, A109, A110, A110A",
    "14486 ANATOLIAN HIEROGLYPH: A110B, A111, A112, A113, A114, A115, A115A, A116, A117, A118, A119, A120",
    "14492 ANATOLIAN HIEROGLYPH: A121, A122, A123, A124, A125, A125A, A126, A127, A128, A129, A130, A131",
    "1449E ANATOLIAN HIEROGLYPH: A132, A133, A134, A135, A135A, A136, A137, A138, A139, A140, A141, A142",
    "144AA ANATOLIAN HIEROGLYPH: A143, A144, A145, A146, A147, A148, A149, A150, A151, A152, A153, A154, A155",
    "144B7 ANATOLIAN HIEROGLYPH: A156, A157, A158, A159, A160, A161, A162, A163, A164, A165, A166, A167, A168",
    "144C4 ANATOLIAN HIEROGLYPH: A169, A170, A171, A172, A173, A174, A175, A176, A177, A178, A179, A180, A181",
    "144D1 ANATOLIAN HIEROGLYPH: A182, A183, A184, A185, A186, A187, A188, A189, A190, A191, A192, A193, A194",
    "144DE ANATOLIAN HIEROGLYPH: A195, A196, A197, A198, A199, A200, A201, A202, A202A, A202B, A203, A204",
    "144EA ANATOLIAN HIEROGLYPH: A205, A206, A207, A207A, A208, A209, A209A, A210, A211, A212, A213, A214",
    "144F6 ANATOLIAN HIEROGLYPH: A215, A215A, A216, A216A, A217, A218, A219, A220, A221, A222, A223, A224",
    "14502 ANATOLIAN HIEROGLYPH: A225, A226, A227, A227A, A228, A229, A230, A231, A232, A233, A234, A235",
    "1450E ANATOLIAN HIEROGLYPH: A236, A237, A238, A239, A240, A241, A242, A243, A244, A245, A246, A247, A248",
    "1451B ANATOLIAN HIEROGLYPH: A249, A250, A251, A252, A253, A254, A255, A256, A257, A258, A259, A260, A261",
    "14528 ANATOLIAN HIEROGLYPH: A262, A263, A264, A265, A266, A267, A267A, A268, A269, A270, A271, A272",
    "14534 ANATOLIAN HIEROGLYPH: A273, A274, A275, A276, A277, A278, A279, A280, A281, A282, A283, A284, A285",
    "14541 ANATOLIAN HIEROGLYPH: A286, A287, A288, A289, A289A, A290, A291, A292, A293, A294, A294A, A295",
    "1454D ANATOLIAN HIEROGLYPH: A296, A297, A298, A299, A299A, A300, A301, A302, A303, A304, A305, A306",
    "14559 ANATOLIAN HIEROGLYPH: A307, A308, A309, A309A, A310, A311, A312, A313, A314, A315, A316, A317",
    "14565 ANATOLIAN HIEROGLYPH: A318, A319, A320, A321, A322, A323, A324, A325, A326, A327, A328, A329",
    "14571 ANATOLIAN HIEROGLYPH: A329A, A330, A331, A332A, A332B, A332C, A333, A334, A335, A336, A336A, A336B",
    "1457D ANATOLIAN HIEROGLYPH: A336C, A337, A338, A339, A340, A341, A342, A343, A344, A345, A346, A347",
    "14589 ANATOLIAN HIEROGLYPH: A348, A349, A350, A351, A352, A353, A354, A355, A356, A357, A358, A359",
    "14595 ANATOLIAN HIEROGLYPH: A359A, A360, A361, A362, A363, A364, A364A, A365, A366, A367, A368, A368A",
    "145A1 ANATOLIAN HIEROGLYPH: A369, A370, A371, A371A, A372, A373, A374, A375, A376, A377, A378, A379",
    "145AD ANATOLIAN HIEROGLYPH: A380, A381, A381A, A382, A383 RA OR RI, A383A, A384, A385, A386, A386A, A387",
    "145B8 ANATOLIAN HIEROGLYPH: A388, A389, A390, A391, A392, A393 EIGHT, A394, A395, A396, A397, A398, A399",
    "145C4 ANATOLIAN HIEROGLYPH: A400, A401, A402, A403, A404, A405, A406, A407, A408, A409",
    "145CE ANATOLIAN HIEROGLYPH: A410 BEGIN LOGOGRAM MARK, A410A END LOGOGRAM MARK, A411, A412, A413, A414",
    "145D4 ANATOLIAN HIEROGLYPH: A415, A416, A417, A418, A419, A420, A421, A422, A423, A424, A425, A426, A427",
    "145E1 ANATOLIAN HIEROGLYPH: A428, A429, A430, A431, A432, A433, A434, A435, A436, A437, A438, A439, A440",
    "145EE ANATOLIAN HIEROGLYPH: A441, A442, A443, A444, A445, A446, A447, A448, A449, A450, A450A, A451",
    "145FA ANATOLIAN HIEROGLYPH: A452, A453, A454, A455, A456, A457, A457A, A458, A459, A460, A461, A462",
    "14606 ANATOLIAN HIEROGLYPH: A463, A464, A465, A466, A467, A468, A469, A470, A471, A472, A473, A474, A475",
    "14613 ANATOLIAN HIEROGLYPH: A476, A477, A478, A479, A480, A481, A482, A483, A484, A485, A486, A487, A488",
    "14620 ANATOLIAN HIEROGLYPH: A489, A490, A491, A492, A493, A494, A495, A496, A497, A501, A502, A503, A504",
    "1462D ANATOLIAN HIEROGLYPH: A505, A506, A507, A508, A509, A510, A511, A512, A513, A514, A515, A516, A517",
    "1463A ANATOLIAN HIEROGLYPH: A518, A519, A520, A521, A522, A523, A524, A525, A526, A527, A528, A529, A530",
    "16800 BAMUM LETTER PHASE-A: NGKUE MFON, GBIEE FON, PON MFON PIPAEMGBIEE, PON MFON PIPAEMBA, NAA MFON",
    "16805 BAMUM LETTER PHASE-A: SHUENSHUET, TITA MFON, NZA MFON, SHINDA PA NJI, PON PA NJI PIPAEMGBIEE",
    "1680A BAMUM LETTER PHASE-A: PON PA NJI PIPAEMBA, MAEMBGBIEE, TU MAEMBA, NGANGU, MAEMVEUX, MANSUAE",
    "16810 BAMUM LETTER PHASE-A: MVEUAENGAM, SEUNYAM, NTOQPEN, KEUKEUTNDA, NKINDI, SUU, NGKUENZEUM, LAPAQ",
    "16818 BAMUM LETTER PHASE-A: LET KUT, NTAP MFAA, MAEKEUP, PASHAE, GHEUAERAE, PAMSHAE, MON NGGEUAET",
    "1681F BAMUM LETTER PHASE-A: NZUN MEUT, U YUQ NAE, GHEUAEGHEUAE, NTAP NTAA, SISA, MGBASA, MEUNJOMNDEUQ",
    "16826 BAMUM LETTER PHASE-A: MOOMPUQ, KAFA, PA LEERAEWA, NDA LEERAEWA, PET, MAEMKPEN, NIKA, PUP, TUAEP",
    "1682F BAMUM LETTER PHASE-A: LUAEP, SONJAM, TEUTEUWEN, MAENYI, KET, NDAANGGEUAET, KUOQ, MOOMEUT, SHUM",
    "16838 BAMUM LETTER PHASE-A: LOMMAE, FIRI, ROM, KPOQ, SOQ, MAP PIEET, SHIRAE, NTAP, SHOQ NSHUT YUM",
    "16841 BAMUM LETTER PHASE-A: NYIT MONGKEUAEQ, PAARAE, NKAARAE, UNKNOWN, NGGEN, MAESI, NJAM, MBANYI, NYET",
    "1684A BAMUM LETTER PHASE-A: TEUAEN, SOT, PAAM, NSHIEE, MAEM, NYI, KAQ, NSHA, VEE, LU, NEN, NAQ, MBAQ",
    "16857 BAMUM LETTER PHASE-B: NSHUET, TU MAEMGBIEE, SIEE, SET TU, LOM NTEUM, MBA MAELEE, KIEEM, YEURAE",
    "1685F BAMUM LETTER PHASE-B: MBAARAE, KAM, PEESHI, YAFU LEERAEWA, LAM NSHUT NYAM, NTIEE SHEUOQ, NDU NJAA",
    "16866 BAMUM LETTER PHASE-B: GHEUGHEUAEM, PIT, TU NSIEE, SHET NJAQ, SHEUAEQTU, MFON TEUAEQ, MBIT MBAAKET",
    "1686D BAMUM LETTER PHASE-B: NYI NTEUM, KEUPUQ, GHEUGHEN, KEUYEUX, LAANAE, PARUM, VEUM, NGKINDI MVOP",
    "16875 BAMUM LETTER PHASE-B: NGGEU MBU, WUAET, SAKEUAE, TAAM, MEUQ, NGGUOQ, NGGUOQ LARGE, MFIYAQ, SUE",
    "1687E BAMUM LETTER PHASE-B: MBEURI, MONTIEEN, NYAEMAE, PUNGAAM, MEUT NGGEET, FEUX, MBUOQ, FEE, KEUAEM",
    "16887 BAMUM LETTER PHASE-B: MA NJEUAENA, MA NJUQA, LET, NGGAAM, NSEN, MA, KIQ, NGOM",
    "1688F BAMUM LETTER PHASE-C: NGKUE MAEMBA, NZA, YUM, WANGKUOQ, NGGEN, NDEUAEREE, NGKAQ, GHARAE, MBEEKEET",
    "16898 BAMUM LETTER PHASE-C: GBAYI, NYIR MKPARAQ MEUN, NTU MBIT, MBEUM, PIRIEEN, NDOMBU",
    "1689E BAMUM LETTER PHASE-C: MBAA CABBAGE-TREE, KEUSHEUAEP, GHAP, KEUKAQ, YU MUOMAE, NZEUM, MBUE, NSEUAEN",
    "168A6 BAMUM LETTER PHASE-C: MBIT, YEUQ, KPARAQ, KAA, SEUX, NDIDA, TAASHAE, NJUEQ, TITA YUE, SUAET",
    "168B0 BAMUM LETTER PHASE-C: NGGUAEN NYAM, VEUX, NANSANAQ, MA KEUAERI, NTAA, NGGUON, LAP, MBIRIEEN",
    "168B8 BAMUM LETTER PHASE-C: MGBASAQ, NTEUNGBA, TEUTEUX, NGGUM, FUE, NDEUT, NSA, NSHAQ, BUNG, VEUAEPEN",
    "168C2 BAMUM LETTER PHASE-C: MBERAE, RU, NJAEM, LAM, TITUAEP, NSUOT NGOM, NJEEEE, KET, NGGU, MAESI",
    "168CC BAMUM LETTER PHASE-C: MBUAEM, LU, KUT, NJAM, NGOM, WUP, NGGUEET, NSOM, NTEN, KUOP NKAARAE, NSUN",
    "168D7 BAMUM LETTER PHASE-C: NDAM, MA NSIEE, YAA, NDAP, SHUEQ, SETFON, MBI, MAEMBA, MBANYI, KEUSEUX",
    "168E1 BAMUM LETTER PHASE-C: MBEUX, KEUM, MBAA PICKET, YUWOQ, NJEUX, MIEE, MUAE, SHIQ, KEN LAW",
    "168EA BAMUM LETTER PHASE-C: KEN FATIGUE, NGAQ, NAQ, LIQ, PIN, PEN, TET",
    "168F1 BAMUM LETTER PHASE-D: MBUO, WAP, NJI, MFON, NJIEE, LIEE, NJEUT, NSHEE, NGGAAMAE, NYAM, WUAEN",
    "168FC BAMUM LETTER PHASE-D: NGKUN, SHEE, NGKAP, KEUAETMEUN, TEUT, SHEUAE, NJAP, SUE, KET, YAEMMAE, KUOM",
    "16907 BAMUM LETTER PHASE-D: SAP, MFEUT, NDEUX, MALEERI, MEUT, SEUAEQ, YEN, NJEUAEM, KEUOT MBUAE, NGKEURI",
    "16911 BAMUM LETTER PHASE-D: TU, GHAA, NGKYEE, FEUFEUAET, NDEE, MGBOFUM, LEUAEP, NDON, MONI, MGBEUN, PUUT",
    "1691C BAMUM LETTER PHASE-D: MGBIEE, MFO, LUM, NSIEEP, MBAA, KWAET, NYET, TEUAEN, SOT, YUWOQ, KEUM, RAEM",
    "16928 BAMUM LETTER PHASE-D: TEEEE, NGKEUAEQ, MFEUAE, NSIEET, KEUP, PIP, PEUTAE, NYUE, LET, NGGAAM, MFIEE",
    "16933 BAMUM LETTER PHASE-D: NGGWAEN, YUOM, PAP, YUOP, NDAM, NTEUM, SUAE, KUN, NGGEUX, NGKIEE, TUOT, MEUN",
    "1693F BAMUM LETTER PHASE-D: KUQ, NSUM, TEUN, MAENJET, NGGAP, LEUM, NGGUOM, NSHUT, NJUEQ, GHEUAE, KU",
    "1694A BAMUM LETTER PHASE-D: REN OLD, TAE, TOQ, NYI, RII, LEEEE, MEEEE, M, SUU, MU, SHII, SHEUX, KYEE, NU",
    "16958 BAMUM LETTER PHASE-D: SHU, NTEE, PEE, NI, SHOQ, PUQ, MVOP, LOQ, REN MUCH, TI, NTUU, MBAA SEVEN",
    "16964 BAMUM LETTER PHASE-D: SAQ, FAA",
    "16966 BAMUM LETTER PHASE-E: NDAP, TOON, MBEUM, LAP, VOM, LOON, PAA, SOM, RAQ, NSHUOP, NDUN, PUAE, TAM",
    "16973 BAMUM LETTER PHASE-E: NGKA, KPEUX, WUO, SEE, NGGEUAET, PAAM, TOO, KUOP, LOM, NSHIEE, NGOP, MAEM",
    "1697F BAMUM LETTER PHASE-E: NGKEUX, NGOQ, NSHUE, RIMGBA, NJEUX, PEEM, SAA, NGGURAE, MGBA, GHEUX",
    "16989 BAMUM LETTER PHASE-E: NGKEUAEM, NJAEMLI, MAP, LOOT, NGGEEEE, NDIQ, TAEN NTEUM, SET, PUM",
    "16992 BAMUM LETTER PHASE-E: NDAA SOFTNESS, NGGUAESHAE NYAM, YIEE, GHEUN, TUAE, YEUAE, PO, TUMAE, KEUAE",
    "1699B BAMUM LETTER PHASE-E: SUAEN, TEUAEQ, VEUAE, WEUX, LAAM, PU, TAAQ, GHAAMAE, NGEUREUT, SHEUAEQ",
    "169A5 BAMUM LETTER PHASE-E: MGBEN, MBEE, NZAQ, NKOM, GBET, TUM, KUET, YAP, NYI CLEAVER, YIT, MFEUQ",
    "169B0 BAMUM LETTER PHASE-E: NDIAQ, PIEEQ, YUEQ, LEUAEM, FUE, GBEUX, NGKUP, KET, MAE, NGKAAMI, GHET, FA",
    "169BC BAMUM LETTER PHASE-E: NTUM, PEUT, YEUM, NGGEUAE, NYI BETWEEN, NZUQ, POON, MIEE, FUET, NAE, MUAE",
    "169C7 BAMUM LETTER PHASE-E: GHEUAE, FU I, MVI, PUAQ, NGKUM, KUT, PIET, NTAP, YEUAET, NGGUP, PA PEOPLE",
    "169D2 BAMUM LETTER PHASE-E: FU CALL, FOM, NJEE, A, TOQ, O, I, LAQ, PA PLURAL, TAA, TAQ, NDAA MY HOUSE",
    "169DE BAMUM LETTER PHASE-E: SHIQ, YEUX, NGUAE, YUAEN, YOQ SWIMMING, YOQ COVER, YUQ, YUN, KEUX, PEUX",
    "169E8 BAMUM LETTER PHASE-E: NJEE EPOCH, PUE, WUE, FEE, VEE, LU, MI, REUX, RAE, NGUAET, NGA, SHO, SHOQ",
    "169F5 BAMUM LETTER PHASE-E: FU REMEDY, NA, PI, LOQ, KO, MEN, MA, MAQ, TEU, KI, MON, TEN, FAQ, GHOM",
    "16A03 BAMUM LETTER PHASE-F: KA, U, KU, EE, REE, TAE, NYI, LA, RII, RIEE, MEEEE, TAA, NDAA, NJAEM, M, SUU",
    "16A13 BAMUM LETTER PHASE-F: SHII, SI, SEUX, KYEE, KET, NUAE, NU, NJUAE, YOQ, SHU, YA, NSHA, PEUX, NTEE",
    "16A21 BAMUM LETTER PHASE-F: WUE, PEE, RU, NI, REUX, KEN, NGKWAEN, NGGA, SHO, PUAE, FOM, WA, LI, LOQ, KO",
    "16A30 BAMUM LETTER PHASE-F: MBEN, REN, MA, MO, MBAA, TET, KPA, SAMBA, VUEQ",
    "16A40 MRO LETTER: TA, NGI, YO, MIM, BA, DA, A, PHI, KHAI, HAO, DAI, CHU, KEAAE, OL, MAEM, NIN, PA, OO, O",
    "16A53 MRO LETTER: RO, SHI, THEA, EA, WA, E, KO, LAN, LA, HAI, RI, TEK",
    "16A60 MRO DIGIT: ZERO, ONE, TWO, THREE, FOUR, FIVE, SIX, SEVEN, EIGHT, NINE",
    "16A6E MRO: DANDA, DOUBLE DANDA",
    "16A70 TANGSA LETTER: OZ, OC, OQ, OX, AZ, AC, AQ, AX, VZ, VC, VQ, VX, EZ, EC, EQ, EX, IZ, IC, IQ, IX, UZ",
    "16A85 TANGSA LETTER: UC, UQ, UX, AWZ, AWC, AWQ, AWX, UIZ, UIC, UIQ, UIX, FINAL NG, LONG UEX, SHORT UEZ",
    "16A93 TANGSA LETTER: SHORT AWX, UEC, UEZ, UEQ, UEX, UIUZ, UIUC, UIUQ, UIUX, MZ, MC, MQ, MX, KA, KHA, GA",
    "16AA3 TANGSA LETTER: NGA, SA, YA, WA, PA, NYA, PHA, BA, MA, NA, HA, LA, HTA, TA, DA, RA, NHA, SHA, CA",
    "16AB6 TANGSA LETTER: TSA, GHA, HTTA, THA, XA, FA, DHA, CHA, ZA",
    "16AC0 TANGSA DIGIT: ZERO, ONE, TWO, THREE, FOUR, FIVE, SIX, SEVEN, EIGHT, NINE",
    "16AD0 BASSA VAH LETTER: ENNI, KA, SE, FA, MBE, YIE, GAH, DHII, KPAH, JO, HWAH, WA, ZO, GBU, DO, CE, UWU",
    "16AE1 BASSA VAH LETTER: TO, BA, VU, YEIN, PA, WADDA, A, O, OO, U, EE, E, I",
    "16AF0 BASSA VAH COMBINING: HIGH TONE, LOW TONE, MID TONE, LOW-MID TONE, HIGH-LOW TONE",
    "16AF5 BASSA VAH FULL: STOP",
    "16B00 PAHAWH HMONG VOWEL: KEEB, KEEV, KIB, KIV, KAUB, KAUV, KUB, KUV, KEB, KEV, KAIB, KAIV, KOOB, KOOV",
    "16B0E PAHAWH HMONG VOWEL: KAWB, KAWV, KUAB, KUAV, KOB, KOV, KIAB, KIAV, KAB, KAV, KWB, KWV, KAAB, KAAV",
    "16B1C PAHAWH HMONG CONSONANT: VAU, NTSAU, LAU, HAU, NLAU, RAU, NKAU, QHAU, YAU, HLAU, MAU, CHAU, NCHAU",
    "16B29 PAHAWH HMONG CONSONANT: HNAU, PLHAU, NTHAU, NAU, AU, XAU, CAU",
    "16B30 PAHAWH HMONG MARK CIM: TUB, SO, KES, KHAV, SUAM, HOM, TAUM",
    "16B37 PAHAWH HMONG SIGN: VOS THOM, VOS TSHAB CEEB, CIM CHEEM, VOS THIAB, VOS FEEM, XYEEM NTXIV",
    "16B3D PAHAWH HMONG SIGN: XYEEM RHO, XYEEM TOV, XYEEM FAIB, VOS SEEV, MEEJ SUAB, VOS NRUA, IB YAM, XAUS",
    "16B45 PAHAWH HMONG SIGN: CIM TSOV ROG",
    "16B50 PAHAWH HMONG DIGIT: ZERO, ONE, TWO, THREE, FOUR, FIVE, SIX, SEVEN, EIGHT, NINE",
    "16B5B PAHAWH HMONG NUMBER: TENS, HUNDREDS, TEN THOUSANDS, MILLIONS, HUNDRED MILLIONS, TEN BILLIONS",
    "16B61 PAHAWH HMONG NUMBER: TRILLIONS",
    "16B63 PAHAWH HMONG SIGN: VOS LUB, XYOO, HLI, THIRD-STAGE HLI, ZWJ THAJ, HNUB, NQIG, XIAB, NTUJ, AV",
    "16B6D PAHAWH HMONG SIGN: TXHEEJ CEEV, MEEJ TSEEB, TAU, LOS, MUS, CIM HAIS LUS NTOG NTOG, CIM CUAM TSHOOJ",
    "16B74 PAHAWH HMONG SIGN: CIM TXWV, CIM TXWV CHWV, CIM PUB DAWB, CIM NRES TOS",
    "16B7D PAHAWH HMONG CLAN SIGN: TSHEEJ, YEEG, LIS, LAUJ, XYOOJ, KOO, HAWJ, MUAS, THOJ, TSAB, PHAB, KHAB",
    "16B89 PAHAWH HMONG CLAN SIGN: HAM, VAJ, FAJ, YAJ, TSWB, KWM, VWJ",
    "16E40 MEDEFAIDRIN CAPITAL LETTER: M, S, V, W, ATIU, Z, KP, P, T, G, F, I, K, A, J, E, B, C, U, YU, L, Q",
    "16E56 MEDEFAIDRIN CAPITAL LETTER: HP, NY, X, D, OE, N, R, O, AI, Y",
    "16E60 MEDEFAIDRIN SMALL LETTER: M, S, V, W, ATIU, Z, KP, P, T, G, F, I, K, A, J, E, B, C, U, YU, L, Q",
    "16E76 MEDEFAIDRIN SMALL LETTER: HP, NY, X, D, OE, N, R, O, AI, Y",
    "16E80 MEDEFAIDRIN DIGIT: ZERO, ONE, TWO, THREE, FOUR, FIVE, SIX, SEVEN, EIGHT, NINE",
    "16E8A MEDEFAIDRIN NUMBER: TEN, ELEVEN, TWELVE, THIRTEEN, FOURTEEN, FIFTEEN, SIXTEEN, SEVENTEEN, EIGHTEEN",
    "16E93 MEDEFAIDRIN NUMBER: NINETEEN",
    "16E94 MEDEFAIDRIN: DIGIT ONE ALTERNATE FORM, DIGIT TWO ALTERNATE FORM, DIGIT THREE ALTERNATE FORM, COMMA",
    "16E98 MEDEFAIDRIN: FULL STOP, SYMBOL AIVA, EXCLAMATION OH",
    "16F00 MIAO LETTER: PA, BA, YI PA, PLA, MA, MHA, ARCHAIC MA, FA, VA, VFA, TA, DA, YI TTA, YI TA, TTA, DDA",
    "16F10 MIAO LETTER: NA, NHA, YI NNA, ARCHAIC NA, NNA, NNHA, LA, LYA, LHA, LHYA, TLHA, DLHA, TLHYA, DLHYA",
    "16F1E MIAO LETTER: KA, GA, YI KA, QA, QGA, NGA, NGHA, ARCHAIC NGA, HA, XA, GHA, GHHA, TSSA, DZZA, NYA",
    "16F2D MIAO LETTER: NYHA, TSHA, DZHA, YI TSHA, YI DZHA, REFORMED TSHA, SHA, SSA, ZHA, ZSHA, TSA, DZA",
    "16F39 MIAO LETTER: YI TSA, SA, ZA, ZSA, ZZA, ZZSA, ARCHAIC ZZA, ZZYA, ZZSYA, WA, AH, HHA, BRI, SYI, DZYI",
    "16F48 MIAO LETTER: TE, TSE, RTE",
    "16F4F MIAO: SIGN CONSONANT MODIFIER BAR, LETTER NASALIZATION, SIGN ASPIRATION",
    "16F52 MIAO SIGN REFORMED: VOICING, ASPIRATION",
    "16F54 MIAO VOWEL SIGN: A, AA, AHH, AN, ANG, O, OO, WO, W, E, EN, ENG, OEY, I, IA, IAN, IANG, IO, IE, II",
    "16F68 MIAO VOWEL SIGN: IU, ING, U, UA, UAN, UANG, UU, UEI, UNG, Y, YI, AE, AEE, ERR, ROUNDED ERR, ER",
    "16F78 MIAO VOWEL SIGN: ROUNDED ER, AI, EI, AU, OU, N, NG, UOG, YUI, OG, OER, VW, IG, EA, IONG, UI",
    "16F8F MIAO TONE: RIGHT, TOP RIGHT, ABOVE, BELOW",
    "16F93 MIAO LETTER: TONE-2, TONE-3, TONE-4, TONE-5, TONE-6, TONE-7, TONE-8",
    "16F9A MIAO LETTER REFORMED: TONE-1, TONE-2, TONE-4, TONE-5, TONE-6, TONE-8",
    "16FE0: TANGUT ITERATION MARK, NUSHU ITERATION MARK, OLD CHINESE HOOK MARK, OLD CHINESE ITERATION MARK",
    "16FE4: KHITAN SMALL SCRIPT FILLER; 16FF0 VIETNAMESE ALTERNATE READING MARK: CA, NHAY",
    "18800 TANGUT: COMPONENT-001, COMPONENT-002, COMPONENT-003, COMPONENT-004, COMPONENT-005, COMPONENT-006",
    "18806 TANGUT: COMPONENT-007, COMPONENT-008, COMPONENT-009, COMPONENT-010, COMPONENT-011, COMPONENT-012",
    "1880C TANGUT: COMPONENT-013, COMPONENT-014, COMPONENT-015, COMPONENT-016, COMPONENT-017, COMPONENT-018",
    "18812 TANGUT: COMPONENT-019, COMPONENT-020, COMPONENT-021, COMPONENT-022, COMPONENT-023, COMPONENT-024",
    "18818 TANGUT: COMPONENT-025, COMPONENT-026, COMPONENT-027, COMPONENT-028, COMPONENT-029, COMPONENT-030",
    "1881E TANGUT: COMPONENT-031, COMPONENT-032, COMPONENT-033, COMPONENT-034, COMPONENT-035, COMPONENT-036",
    "18824 TANGUT: COMPONENT-037, COMPONENT-038, COMPONENT-039, COMPONENT-040, COMPONENT-041, COMPONENT-042",
    "1882A TANGUT: COMPONENT-043, COMPONENT-044, COMPONENT-045, COMPONENT-046, COMPONENT-047, COMPONENT-048",
    "18830 TANGUT: COMPONENT-049, COMPONENT-050, COMPONENT-051, COMPONENT-052, COMPONENT-053, COMPONENT-054",
    "18836 TANGUT: COMPONENT-055, COMPONENT-056, COMPONENT-057, COMPONENT-058, COMPONENT-059, COMPONENT-060",
    "1883C TANGUT: COMPONENT-061, COMPONENT-062, COMPONENT-063, COMPONENT-064, COMPONENT-065, COMPONENT-066",
    "18842 TANGUT: COMPONENT-067, COMPONENT-068, COMPONENT-069, COMPONENT-070, COMPONENT-071, COMPONENT-072",
    "18848 TANGUT: COMPONENT-073, COMPONENT-074, COMPONENT-075, COMPONENT-076, COMPONENT-077, COMPONENT-078",
    "1884E TANGUT: COMPONENT-079, COMPONENT-080, COMPONENT-081, COMPONENT-082, COMPONENT-083, COMPONENT-084",
    "18854 TANGUT: COMPONENT-085, COMPONENT-086, COMPONENT-087, COMPONENT-088, COMPONENT-089, COMPONENT-090",
    "1885A TANGUT: COMPONENT-091, COMPONENT-092, COMPONENT-093, COMPONENT-094, COMPONENT-095, COMPONENT-096",
    "18860 TANGUT: COMPONENT-097, COMPONENT-098, COMPONENT-099, COMPONENT-100, COMPONENT-101, COMPONENT-102",
    "18866 TANGUT: COMPONENT-103, COMPONENT-104, COMPONENT-105, COMPONENT-106, COMPONENT-107, COMPONENT-108",
    "1886C TANGUT: COMPONENT-109, COMPONENT-110, COMPONENT-111, COMPONENT-112, COMPONENT-113, COMPONENT-114",
    "18872 TANGUT: COMPONENT-115, COMPONENT-116, COMPONENT-117, COMPONENT-118, COMPONENT-119, COMPONENT-120",
    "18878 TANGUT: COMPONENT-121, COMPONENT-122, COMPONENT-123, COMPONENT-124, COMPONENT-125, COMPONENT-126",
    "1887E TANGUT: COMPONENT-127, COMPONENT-128, COMPONENT-129, COMPONENT-130, COMPONENT-131, COMPONENT-132",
    "18884 TANGUT: COMPONENT-133, COMPONENT-134, COMPONENT-135, COMPONENT-136, COMPONENT-137, COMPONENT-138",
    "1888A TANGUT: COMPONENT-139, COMPONENT-140, COMPONENT-141, COMPONENT-142, COMPONENT-143, COMPONENT-144",
    "18890 TANGUT: COMPONENT-145, COMPONENT-146, COMPONENT-147, COMPONENT-148, COMPONENT-149, COMPONENT-150",
    "18896 TANGUT: COMPONENT-151, COMPONENT-152, COMPONENT-153, COMPONENT-154, COMPONENT-155, COMPONENT-156",
    "1889C TANGUT: COMPONENT-157, COMPONENT-158, COMPONENT-159, COMPONENT-160, COMPONENT-161, COMPONENT-162",
    "188A2 TANGUT: COMPONENT-163, COMPONENT-164, COMPONENT-165, COMPONENT-166, COMPONENT-167, COMPONENT-168",
    "188A8 TANGUT: COMPONENT-169, COMPONENT-170, COMPONENT-171, COMPONENT-172, COMPONENT-173, COMPONENT-174",
    "188AE TANGUT: COMPONENT-175, COMPONENT-176, COMPONENT-177, COMPONENT-178, COMPONENT-179, COMPONENT-180",
    "188B4 TANGUT: COMPONENT-181, COMPONENT-182, COMPONENT-183, COMPONENT-184, COMPONENT-185, COMPONENT-186",
    "188BA TANGUT: COMPONENT-187, COMPONENT-188, COMPONENT-189, COMPONENT-190, COMPONENT-191, COMPONENT-192",
    "188C0 TANGUT: COMPONENT-193, COMPONENT-194, COMPONENT-195, COMPONENT-196, COMPONENT-197, COMPONENT-198",
    "188C6 TANGUT: COMPONENT-199, COMPONENT-200, COMPONENT-201, COMPONENT-202, COMPONENT-203, COMPONENT-204",
    "188CC TANGUT: COMPONENT-205, COMPONENT-206, COMPONENT-207, COMPONENT-208, COMPONENT-209, COMPONENT-210",
    "188D2 TANGUT: COMPONENT-211, COMPONENT-212, COMPONENT-213, COMPONENT-214, COMPONENT-215, COMPONENT-216",
    "188D8 TANGUT: COMPONENT-217, COMPONENT-218, COMPONENT-219, COMPONENT-220, COMPONENT-221, COMPONENT-222",
    "188DE TANGUT: COMPONENT-223, COMPONENT-224, COMPONENT-225, COMPONENT-226, COMPONENT-227, COMPONENT-228",
    "188E4 TANGUT: COMPONENT-229, COMPONENT-230, COMPONENT-231, COMPONENT-232, COMPONENT-233, COMPONENT-234",
    "188EA TANGUT: COMPONENT-235, COMPONENT-236, COMPONENT-237, COMPONENT-238, COMPONENT-239, COMPONENT-240",
    "188F0 TANGUT: COMPONENT-241, COMPONENT-242, COMPONENT-243, COMPONENT-244, COMPONENT-245, COMPONENT-246",
    "188F6 TANGUT: COMPONENT-247, COMPONENT-248, COMPONENT-249, COMPONENT-250, COMPONENT-251, COMPONENT-252",
    "188FC TANGUT: COMPONENT-253, COMPONENT-254, COMPONENT-255, COMPONENT-256, COMPONENT-257, COMPONENT-258",
    "18902 TANGUT: COMPONENT-259, COMPONENT-260, COMPONENT-261, COMPONENT-262, COMPONENT-263, COMPONENT-264",
    "18908 TANGUT: COMPONENT-265, COMPONENT-266, COMPONENT-267, COMPONENT-268, COMPONENT-269, COMPONENT-270",
    "1890E TANGUT: COMPONENT-271, COMPONENT-272, COMPONENT-273, COMPONENT-274, COMPONENT-275, COMPONENT-276",
    "18914 TANGUT: COMPONENT-277, COMPONENT-278, COMPONENT-279, COMPONENT-280, COMPONENT-281, COMPONENT-282",
    "1891A TANGUT: COMPONENT-283, COMPONENT-284, COMPONENT-285, COMPONENT-286, COMPONENT-287, COMPONENT-288",
    "18920 TANGUT: COMPONENT-289, COMPONENT-290, COMPONENT-291, COMPONENT-292, COMPONENT-293, COMPONENT-294",
    "18926 TANGUT: COMPONENT-295, COMPONENT-296, COMPONENT-297, COMPONENT-298, COMPONENT-299, COMPONENT-300",
    "1892C TANGUT: COMPONENT-301, COMPONENT-302, COMPONENT-303, COMPONENT-304, COMPONENT-305, COMPONENT-306",
    "18932 TANGUT: COMPONENT-307, COMPONENT-308, COMPONENT-309, COMPONENT-310, COMPONENT-311, COMPONENT-312",
    "18938 TANGUT: COMPONENT-313, COMPONENT-314, COMPONENT-315, COMPONENT-316, COMPONENT-317, COMPONENT-318",
    "1893E TANGUT: COMPONENT-319, COMPONENT-320, COMPONENT-321, COMPONENT-322, COMPONENT-323, COMPONENT-324",
    "18944 TANGUT: COMPONENT-325, COMPONENT-326, COMPONENT-327, COMPONENT-328, COMPONENT-329, COMPONENT-330",
    "1894A TANGUT: COMPONENT-331, COMPONENT-332, COMPONENT-333, COMPONENT-334, COMPONENT-335, COMPONENT-336",
    "18950 TANGUT: COMPONENT-337, COMPONENT-338, COMPONENT-339, COMPONENT-340, COMPONENT-341, COMPONENT-342",
    "18956 TANGUT: COMPONENT-343, COMPONENT-344, COMPONENT-345, COMPONENT-346, COMPONENT-347, COMPONENT-348",
    "1895C TANGUT: COMPONENT-349, COMPONENT-350, COMPONENT-351, COMPONENT-352, COMPONENT-353, COMPONENT-354",
    "18962 TANGUT: COMPONENT-355, COMPONENT-356, COMPONENT-357, COMPONENT-358, COMPONENT-359, COMPONENT-360",
    "18968 TANGUT: COMPONENT-361, COMPONENT-362, COMPONENT-363, COMPONENT-364, COMPONENT-365, COMPONENT-366",
    "1896E TANGUT: COMPONENT-367, COMPONENT-368, COMPONENT-369, COMPONENT-370, COMPONENT-371, COMPONENT-372",
    "18974 TANGUT: COMPONENT-373, COMPONENT-374, COMPONENT-375, COMPONENT-376, COMPONENT-377, COMPONENT-378",
    "1897A TANGUT: COMPONENT-379, COMPONENT-380, COMPONENT-381, COMPONENT-382, COMPONENT-383, COMPONENT-384",
    "18980 TANGUT: COMPONENT-385, COMPONENT-386, COMPONENT-387, COMPONENT-388, COMPONENT-389, COMPONENT-390",
    "18986 TANGUT: COMPONENT-391, COMPONENT-392, COMPONENT-393, COMPONENT-394, COMPONENT-395, COMPONENT-396",
    "1898C TANGUT: COMPONENT-397, COMPONENT-398, COMPONENT-399, COMPONENT-400, COMPONENT-401, COMPONENT-402",
    "18992 TANGUT: COMPONENT-403, COMPONENT-404, COMPONENT-405, COMPONENT-406, COMPONENT-407, COMPONENT-408",
    "18998 TANGUT: COMPONENT-409, COMPONENT-410, COMPONENT-411, COMPONENT-412, COMPONENT-413, COMPONENT-414",
    "1899E TANGUT: COMPONENT-415, COMPONENT-416, COMPONENT-417, COMPONENT-418, COMPONENT-419, COMPONENT-420",
    "189A4 TANGUT: COMPONENT-421, COMPONENT-422, COMPONENT-423, COMPONENT-424, COMPONENT-425, COMPONENT-426",
    "189AA TANGUT: COMPONENT-427, COMPONENT-428, COMPONENT-429, COMPONENT-430, COMPONENT-431, COMPONENT-432",
    "189B0 TANGUT: COMPONENT-433, COMPONENT-434, COMPONENT-435, COMPONENT-436, COMPONENT-437, COMPONENT-438",
    "189B6 TANGUT: COMPONENT-439, COMPONENT-440, COMPONENT-441, COMPONENT-442, COMPONENT-443, COMPONENT-444",
    "189BC TANGUT: COMPONENT-445, COMPONENT-446, COMPONENT-447, COMPONENT-448, COMPONENT-449, COMPONENT-450",
    "189C2 TANGUT: COMPONENT-451, COMPONENT-452, COMPONENT-453, COMPONENT-454, COMPONENT-455, COMPONENT-456",
    "189C8 TANGUT: COMPONENT-457, COMPONENT-458, COMPONENT-459, COMPONENT-460, COMPONENT-461, COMPONENT-462",
    "189CE TANGUT: COMPONENT-463, COMPONENT-464, COMPONENT-465, COMPONENT-466, COMPONENT-467, COMPONENT-468",
    "189D4 TANGUT: COMPONENT-469, COMPONENT-470, COMPONENT-471, COMPONENT-472, COMPONENT-473, COMPONENT-474",
    "189DA TANGUT: COMPONENT-475, COMPONENT-476, COMPONENT-477, COMPONENT-478, COMPONENT-479, COMPONENT-480",
    "189E0 TANGUT: COMPONENT-481, COMPONENT-482, COMPONENT-483, COMPONENT-484, COMPONENT-485, COMPONENT-486",
    "189E6 TANGUT: COMPONENT-487, COMPONENT-488, COMPONENT-489, COMPONENT-490, COMPONENT-491, COMPONENT-492",
    "189EC TANGUT: COMPONENT-493, COMPONENT-494, COMPONENT-495, COMPONENT-496, COMPONENT-497, COMPONENT-498",
    "189F2 TANGUT: COMPONENT-499, COMPONENT-500, COMPONENT-501, COMPONENT-502, COMPONENT-503, COMPONENT-504",
    "189F8 TANGUT: COMPONENT-505, COMPONENT-506, COMPONENT-507, COMPONENT-508, COMPONENT-509, COMPONENT-510",
    "189FE TANGUT: COMPONENT-511, COMPONENT-512, COMPONENT-513, COMPONENT-514, COMPONENT-515, COMPONENT-516",
    "18A04 TANGUT: COMPONENT-517, COMPONENT-518, COMPONENT-519, COMPONENT-520, COMPONENT-521, COMPONENT-522",
    "18A0A TANGUT: COMPONENT-523, COMPONENT-524, COMPONENT-525, COMPONENT-526, COMPONENT-527, COMPONENT-528",
    "18A10 TANGUT: COMPONENT-529, COMPONENT-530, COMPONENT-531, COMPONENT-532, COMPONENT-533, COMPONENT-534",
    "18A16 TANGUT: COMPONENT-535, COMPONENT-536, COMPONENT-537, COMPONENT-538, COMPONENT-539, COMPONENT-540",
    "18A1C TANGUT: COMPONENT-541, COMPONENT-542, COMPONENT-543, COMPONENT-544, COMPONENT-545, COMPONENT-546",
    "18A22 TANGUT: COMPONENT-547, COMPONENT-548, COMPONENT-549, COMPONENT-550, COMPONENT-551, COMPONENT-552",
    "18A28 TANGUT: COMPONENT-553, COMPONENT-554, COMPONENT-555, COMPONENT-556, COMPONENT-557, COMPONENT-558",
    "18A2E TANGUT: COMPONENT-559, COMPONENT-560, COMPONENT-561, COMPONENT-562, COMPONENT-563, COMPONENT-564",
    "18A34 TANGUT: COMPONENT-565, COMPONENT-566, COMPONENT-567, COMPONENT-568, COMPONENT-569, COMPONENT-570",
    "18A3A TANGUT: COMPONENT-571, COMPONENT-572, COMPONENT-573, COMPONENT-574, COMPONENT-575, COMPONENT-576",
    "18A40 TANGUT: COMPONENT-577, COMPONENT-578, COMPONENT-579, COMPONENT-580, COMPONENT-581, COMPONENT-582",
    "18A46 TANGUT: COMPONENT-583, COMPONENT-584, COMPONENT-585, COMPONENT-586, COMPONENT-587, COMPONENT-588",
    "18A4C TANGUT: COMPONENT-589, COMPONENT-590, COMPONENT-591, COMPONENT-592, COMPONENT-593, COMPONENT-594",
    "18A52 TANGUT: COMPONENT-595, COMPONENT-596, COMPONENT-597, COMPONENT-598, COMPONENT-599, COMPONENT-600",
    "18A58 TANGUT: COMPONENT-601, COMPONENT-602, COMPONENT-603, COMPONENT-604, COMPONENT-605, COMPONENT-606",
    "18A5E TANGUT: COMPONENT-607, COMPONENT-608, COMPONENT-609, COMPONENT-610, COMPONENT-611, COMPONENT-612",
    "18A64 TANGUT: COMPONENT-613, COMPONENT-614, COMPONENT-615, COMPONENT-616, COMPONENT-617, COMPONENT-618",
    "18A6A TANGUT: COMPONENT-619, COMPONENT-620, COMPONENT-621, COMPONENT-622, COMPONENT-623, COMPONENT-624",
    "18A70 TANGUT: COMPONENT-625, COMPONENT-626, COMPONENT-627, COMPONENT-628, COMPONENT-629, COMPONENT-630",
    "18A76 TANGUT: COMPONENT-631, COMPONENT-632, COMPONENT-633, COMPONENT-634, COMPONENT-635, COMPONENT-636",
    "18A7C TANGUT: COMPONENT-637, COMPONENT-638, COMPONENT-639, COMPONENT-640, COMPONENT-641, COMPONENT-642",
    "18A82 TANGUT: COMPONENT-643, COMPONENT-644, COMPONENT-645, COMPONENT-646, COMPONENT-647, COMPONENT-648",
    "18A88 TANGUT: COMPONENT-649, COMPONENT-650, COMPONENT-651, COMPONENT-652, COMPONENT-653, COMPONENT-654",
    "18A8E TANGUT: COMPONENT-655, COMPONENT-656, COMPONENT-657, COMPONENT-658, COMPONENT-659, COMPONENT-660",
    "18A94 TANGUT: COMPONENT-661, COMPONENT-662, COMPONENT-663, COMPONENT-664, COMPONENT-665, COMPONENT-666",
    "18A9A TANGUT: COMPONENT-667, COMPONENT-668, COMPONENT-669, COMPONENT-670, COMPONENT-671, COMPONENT-672",
    "18AA0 TANGUT: COMPONENT-673, COMPONENT-674, COMPONENT-675, COMPONENT-676, COMPONENT-677, COMPONENT-678",
    "18AA6 TANGUT: COMPONENT-679, COMPONENT-680, COMPONENT-681, COMPONENT-682, COMPONENT-683, COMPONENT-684",
    "18AAC TANGUT: COMPONENT-685, COMPONENT-686, COMPONENT-687, COMPONENT-688, COMPONENT-689, COMPONENT-690",
    "18AB2 TANGUT: COMPONENT-691, COMPONENT-692, COMPONENT-693, COMPONENT-694, COMPONENT-695, COMPONENT-696",
    "18AB8 TANGUT: COMPONENT-697, COMPONENT-698, COMPONENT-699, COMPONENT-700, COMPONENT-701, COMPONENT-702",
    "18ABE TANGUT: COMPONENT-703, COMPONENT-704, COMPONENT-705, COMPONENT-706, COMPONENT-707, COMPONENT-708",
    "18AC4 TANGUT: COMPONENT-709, COMPONENT-710, COMPONENT-711, COMPONENT-712, COMPONENT-713, COMPONENT-714",
    "18ACA TANGUT: COMPONENT-715, COMPONENT-716, COMPONENT-717, COMPONENT-718, COMPONENT-719, COMPONENT-720",
    "18AD0 TANGUT: COMPONENT-721, COMPONENT-722, COMPONENT-723, COMPONENT-724, COMPONENT-725, COMPONENT-726",
    "18AD6 TANGUT: COMPONENT-727, COMPONENT-728, COMPONENT-729, COMPONENT-730, COMPONENT-731, COMPONENT-732",
    "18ADC TANGUT: COMPONENT-733, COMPONENT-734, COMPONENT-735, COMPONENT-736, COMPONENT-737, COMPONENT-738",
    "18AE2 TANGUT: COMPONENT-739, COMPONENT-740, COMPONENT-741, COMPONENT-742, COMPONENT-743, COMPONENT-744",
    "18AE8 TANGUT: COMPONENT-745, COMPONENT-746, COMPONENT-747, COMPONENT-748, COMPONENT-749, COMPONENT-750",
    "18AEE TANGUT: COMPONENT-751, COMPONENT-752, COMPONENT-753, COMPONENT-754, COMPONENT-755, COMPONENT-756",
    "18AF4 TANGUT: COMPONENT-757, COMPONENT-758, COMPONENT-759, COMPONENT-760, COMPONENT-761, COMPONENT-762",
    "18AFA TANGUT: COMPONENT-763, COMPONENT-764, COMPONENT-765, COMPONENT-766, COMPONENT-767, COMPONENT-768",
    "1AFF0 KATAKANA LETTER MINNAN: TONE-2, TONE-3, TONE-4, TONE-5",
    "1AFF5 KATAKANA LETTER MINNAN: TONE-7, TONE-8",
    "1AFF7 KATAKANA LETTER MINNAN NASALIZED: TONE-1, TONE-2, TONE-3, TONE-4, TONE-5",
    "1AFFD KATAKANA LETTER MINNAN NASALIZED: TONE-7, TONE-8",
    "1B000: KATAKANA LETTER ARCHAIC E, HIRAGANA LETTER ARCHAIC YE",
    "1B002 HENTAIGANA LETTER: A-1, A-2, A-3, A-WO, I-1, I-2, I-3, I-4, U-1, U-2, U-3, U-4, U-5, E-2, E-3, E-4",
    "1B012 HENTAIGANA LETTER: E-5, E-6, O-1, O-2, O-3, KA-1, KA-2, KA-3, KA-4, KA-5, KA-6, KA-7, KA-8, KA-9",
    "1B020 HENTAIGANA LETTER: KA-10, KA-11, KA-KE, KI-1, KI-2, KI-3, KI-4, KI-5, KI-6, KI-7, KI-8, KU-1, KU-2",
    "1B02D HENTAIGANA LETTER: KU-3, KU-4, KU-5, KU-6, KU-7, KE-1, KE-2, KE-3, KE-4, KE-5, KE-6, KO-1, KO-2",
    "1B03A HENTAIGANA LETTER: KO-3, KO-KI, SA-1, SA-2, SA-3, SA-4, SA-5, SA-6, SA-7, SA-8, SI-1, SI-2, SI-3",
    "1B047 HENTAIGANA LETTER: SI-4, SI-5, SI-6, SU-1, SU-2, SU-3, SU-4, SU-5, SU-6, SU-7, SU-8, SE-1, SE-2",
    "1B054 HENTAIGANA LETTER: SE-3, SE-4, SE-5, SO-1, SO-2, SO-3, SO-4, SO-5, SO-6, SO-7, TA-1, TA-2, TA-3",
    "1B061 HENTAIGANA LETTER: TA-4, TI-1, TI-2, TI-3, TI-4, TI-5, TI-6, TI-7, TU-1, TU-2, TU-3, TU-4, TU-TO",
    "1B06E HENTAIGANA LETTER: TE-1, TE-2, TE-3, TE-4, TE-5, TE-6, TE-7, TE-8, TE-9, TO-1, TO-2, TO-3, TO-4",
    "1B07B HENTAIGANA LETTER: TO-5, TO-6, TO-RA, NA-1, NA-2, NA-3, NA-4, NA-5, NA-6, NA-7, NA-8, NA-9, NI-1",
    "1B088 HENTAIGANA LETTER: NI-2, NI-3, NI-4, NI-5, NI-6, NI-7, NI-TE, NU-1, NU-2, NU-3, NE-1, NE-2, NE-3",
    "1B095 HENTAIGANA LETTER: NE-4, NE-5, NE-6, NE-KO, NO-1, NO-2, NO-3, NO-4, NO-5, HA-1, HA-2, HA-3, HA-4",
    "1B0A2 HENTAIGANA LETTER: HA-5, HA-6, HA-7, HA-8, HA-9, HA-10, HA-11, HI-1, HI-2, HI-3, HI-4, HI-5, HI-6",
    "1B0AF HENTAIGANA LETTER: HI-7, HU-1, HU-2, HU-3, HE-1, HE-2, HE-3, HE-4, HE-5, HE-6, HE-7, HO-1, HO-2",
    "1B0BC HENTAIGANA LETTER: HO-3, HO-4, HO-5, HO-6, HO-7, HO-8, MA-1, MA-2, MA-3, MA-4, MA-5, MA-6, MA-7",
    "1B0C9 HENTAIGANA LETTER: MI-1, MI-2, MI-3, MI-4, MI-5, MI-6, MI-7, MU-1, MU-2, MU-3, MU-4, ME-1, ME-2",
    "1B0D6 HENTAIGANA LETTER: ME-MA, MO-1, MO-2, MO-3, MO-4, MO-5, MO-6, YA-1, YA-2, YA-3, YA-4, YA-5, YA-YO",
    "1B0E3 HENTAIGANA LETTER: YU-1, YU-2, YU-3, YU-4, YO-1, YO-2, YO-3, YO-4, YO-5, YO-6, RA-1, RA-2, RA-3",
    "1B0F0 HENTAIGANA LETTER: RA-4, RI-1, RI-2, RI-3, RI-4, RI-5, RI-6, RI-7, RU-1, RU-2, RU-3, RU-4, RU-5",
    "1B0FD HENTAIGANA LETTER: RU-6, RE-1, RE-2, RE-3, RE-4, RO-1, RO-2, RO-3, RO-4, RO-5, RO-6, WA-1, WA-2",
    "1B10A HENTAIGANA LETTER: WA-3, WA-4, WA-5, WI-1, WI-2, WI-3, WI-4, WI-5, WE-1, WE-2, WE-3, WE-4, WO-1",
    "1B117 HENTAIGANA LETTER: WO-2, WO-3, WO-4, WO-5, WO-6, WO-7, N-MU-MO-1, N-MU-MO-2",
    "1B11F HIRAGANA LETTER ARCHAIC: WU; 1B120 KATAKANA LETTER ARCHAIC: YI, YE, WU",
    "1B150 HIRAGANA LETTER SMALL: WI, WE, WO; 1B164 KATAKANA LETTER SMALL: WI, WE, WO, N",
    "1BC00 DUPLOYAN LETTER: H, X, P, T, F, K, L, B, D, V, G, R, P N, D S, F N, K M, R S, TH, SLOAN DH, DH, KK",
    "1BC15 DUPLOYAN LETTER: SLOAN J, HL, LH, RH, M, N, J, S, M N, N M, J M, S J, M WITH DOT, N WITH DOT",
    "1BC23 DUPLOYAN LETTER: J WITH DOT, J WITH DOTS INSIDE AND ABOVE, S WITH DOT, S WITH DOT BELOW, M S, N S",
    "1BC29 DUPLOYAN LETTER: J S, S S, M N S, N M S, J M S, S J S, J S WITH DOT, J N, J N S, S T, S T R, S P",
    "1BC35 DUPLOYAN LETTER: S P R, T S, T R S, W, WH, W R, S N, S M, K R S, G R S, S K, S K R, A, SLOAN OW",
    "1BC43 DUPLOYAN LETTER: OA, O, AOU, I, E, IE, SHORT I, UI, EE, SLOAN EH, ROMANIAN I, SLOAN EE, LONG I, YE",
    "1BC51 DUPLOYAN LETTER: U, EU, XW, U N, LONG U, ROMANIAN U, UH, SLOAN U, OOH, OW, OU, WA, WO, WI, WEI",
    "1BC60 DUPLOYAN LETTER: WOW, NASAL U, NASAL O, NASAL I, NASAL A, PERNIN AN, PERNIN AM, SLOAN EN, SLOAN AN",
    "1BC69 DUPLOYAN LETTER: SLOAN ON, VOCALIC M",
    "1BC70 DUPLOYAN AFFIX: LEFT HORIZONTAL SECANT, MID HORIZONTAL SECANT, RIGHT HORIZONTAL SECANT",
    "1BC73 DUPLOYAN AFFIX: LOW VERTICAL SECANT, MID VERTICAL SECANT, HIGH VERTICAL SECANT",
    "1BC76 DUPLOYAN AFFIX ATTACHED: SECANT, LEFT-TO-RIGHT SECANT, TANGENT, TAIL, E HOOK, I HOOK, TANGENT HOOK",
    "1BC80 DUPLOYAN AFFIX HIGH: ACUTE, TIGHT ACUTE, GRAVE, LONG GRAVE, DOT, CIRCLE, LINE, WAVE, VERTICAL",
    "1BC90 DUPLOYAN AFFIX LOW: ACUTE, TIGHT ACUTE, GRAVE, LONG GRAVE, DOT, CIRCLE, LINE, WAVE, VERTICAL",
    "1BC99 DUPLOYAN AFFIX LOW: ARROW",
    "1BC9C DUPLOYAN: SIGN O WITH CROSS, THICK LETTER SELECTOR, DOUBLE MARK, PUNCTUATION CHINOOK FULL STOP",
    "1BCA0 SHORTHAND FORMAT: LETTER OVERLAP, CONTINUING OVERLAP, DOWN STEP, UP STEP",
    "1CF00 ZNAMENNY COMBINING MARK: GORAZDO NIZKO S KRYZHEM ON LEFT, NIZKO S KRYZHEM ON LEFT, TSATA ON LEFT",
    "1CF03 ZNAMENNY COMBINING MARK: GORAZDO NIZKO ON LEFT, NIZKO ON LEFT, SREDNE ON LEFT",
    "1CF06 ZNAMENNY COMBINING MARK: MALO POVYSHE ON LEFT, POVYSHE ON LEFT, VYSOKO ON LEFT",
    "1CF09 ZNAMENNY COMBINING MARK: MALO POVYSHE S KHOKHLOM ON LEFT, POVYSHE S KHOKHLOM ON LEFT",
    "1CF0B ZNAMENNY COMBINING MARK: VYSOKO S KHOKHLOM ON LEFT, GORAZDO NIZKO S KRYZHEM ON RIGHT",
    "1CF0D ZNAMENNY COMBINING MARK: NIZKO S KRYZHEM ON RIGHT, TSATA ON RIGHT, GORAZDO NIZKO ON RIGHT",
    "1CF10 ZNAMENNY COMBINING MARK: NIZKO ON RIGHT, SREDNE ON RIGHT, MALO POVYSHE ON RIGHT, POVYSHE ON RIGHT",
    "1CF14 ZNAMENNY COMBINING MARK: VYSOKO ON RIGHT, MALO POVYSHE S KHOKHLOM ON RIGHT",
    "1CF16 ZNAMENNY COMBINING MARK: POVYSHE S KHOKHLOM ON RIGHT, VYSOKO S KHOKHLOM ON RIGHT, TSATA S KRYZHEM",
    "1CF19 ZNAMENNY COMBINING MARK: MALO POVYSHE S KRYZHEM, STRANNO MALO POVYSHE, POVYSHE S KRYZHEM",
    "1CF1C ZNAMENNY COMBINING MARK: POVYSHE STRANNO, VYSOKO S KRYZHEM, MALO POVYSHE STRANNO, GORAZDO VYSOKO",
    "1CF20 ZNAMENNY COMBINING MARK: ZELO, ON, RAVNO, TIKHAYA, BORZAYA, UDARKA, PODVERTKA, LOMKA, KUPNAYA",
    "1CF29 ZNAMENNY COMBINING MARK: KACHKA, ZEVOK, SKOBA, RAZSEKA, KRYZH ON LEFT",
    "1CF30 ZNAMENNY COMBINING TONAL RANGE MARK: MRACHNO, SVETLO, TRESVETLO",
    "1CF33 ZNAMENNY COMBINING MARK: ZADERZHKA, DEMESTVENNY ZADERZHKA, OTSECHKA, PODCHASHIE",
    "1CF37 ZNAMENNY COMBINING MARK: PODCHASHIE WITH VERTICAL STROKE, CHASHKA, CHASHKA POLNAYA, OBLACHKO",
    "1CF3B ZNAMENNY COMBINING MARK: SOROCHYA NOZHKA, TOCHKA, DVOETOCHIE",
    "1CF3E ZNAMENNY COMBINING: ATTACHING VERTICAL OMET, MARK CURVED OMET, MARK KRYZH",
    "1CF41 ZNAMENNY COMBINING: LOWER TONAL RANGE INDICATOR",
    "1CF42 ZNAMENNY PRIZNAK MODIFIER: LEVEL-2, LEVEL-3, DIRECTION FLIP, KRYZH, ROG",
    "1CF50 ZNAMENNY NEUME: KRYUK, KRYUK TIKHY, PARAKLIT, DVA V CHELNU, KLYUCH, ZANOZHEK, STOPITSA",
    "1CF57 ZNAMENNY NEUME: STOPITSA S OCHKOM, PEREVODKA, PEREVODKA NEPOSTOYANNAYA",
    "1CF5A ZNAMENNY NEUME: STOPITSA WITH SOROCHYA NOZHKA, CHELYUSTKA, PALKA, ZAPYATAYA",
    "1CF5E ZNAMENNY NEUME GOLUBCHIK: BORZY, TIKHY, MRACHNY, SVETLY, TRESVETLY",
    "1CF63 ZNAMENNY NEUME VRAKHIYA: PROSTAYA, MRACHNAYA, SVETLAYA, TRESVETLAYA",
    "1CF67 ZNAMENNY NEUME VRAKHIYA KLYUCHEVAYA: PROSTAYA, MRACHNAYA, SVETLAYA, TRESVETLAYA",
    "1CF6B ZNAMENNY NEUME: DOUBLE ZAPYATAYA, REVERSED CHELYUSTKA, DERBITSA, KHAMILO, CHASHKA, PODCHASHIE",
    "1CF71 ZNAMENNY NEUME: SKAMEYTSA MRACHNAYA, SKAMEYTSA SVETLAYA, SKAMEYTSA TRESVETLAYA, SKAMEYTSA TIKHAYA",
    "1CF75 ZNAMENNY NEUME: DEMESTVENNY KLYUCH, SKAMEYTSA KLYUCHEVAYA SVETLAYA",
    "1CF77 ZNAMENNY NEUME: SKAMEYTSA KLYUCHENEPOSTOYANNAYA, SKAMEYTSA KLYUCHEVAYA TIKHAYA",
    "1CF79 ZNAMENNY NEUME SKAMEYTSA DVOECHELNAYA: PROSTAYA, SVETLAYA, NEPOSTOYANNAYA, KLYUCHEVAYA",
    "1CF7D ZNAMENNY NEUME: SLOZHITIE, SLOZHITIE S ZAPYATOY, SLOZHITIE ZAKRYTOE, SLOZHITIE S KRYZHEM, KRYZH",
    "1CF82 ZNAMENNY NEUME: ROG, FITA, KOBYLA, ZMEYTSA, STATYA",
    "1CF87 ZNAMENNY NEUME STATYA: S ZAPYATOY, S KRYZHEM, S ZAPYATOY I KRYZHEM, S KRYZHEM I ZAPYATOY",
    "1CF8B ZNAMENNY NEUME STATYA: ZAKRYTAYA, ZAKRYTAYA S ZAPYATOY, S ROGOM, S DVUMYA ZAPYATYMI",
    "1CF8F ZNAMENNY NEUME STATYA: S ZAPYATOY I PODCHASHIEM",
    "1CF90 ZNAMENNY NEUME: POLKULIZMY, STATYA NEPOSTOYANNAYA",
    "1CF92 ZNAMENNY NEUME STRELA: PROSTAYA, MRACHNOTIKHAYA, KRYZHEVAYA, POLUPOVODNAYA, POVODNAYA",
    "1CF97 ZNAMENNY NEUME STRELA: NEPOSTOYANNAYA, KLYUCHEPOVODNAYA, KLYUCHENEPOSTOYANNAYA, TIKHAYA PUTNAYA",
    "1CF9B ZNAMENNY NEUME STRELA: DVOECHELNAYA, DVOECHELNOKRYZHEVAYA, DVOECHELNOPOVODNAYA",
    "1CF9E ZNAMENNY NEUME STRELA: DVOECHELNAYA KLYUCHEVAYA, DVOECHELNOPOVODNAYA KLYUCHEVAYA",
    "1CFA0 ZNAMENNY NEUME STRELA: GROMNAYA WITH SINGLE ZAPYATAYA, GROMOPOVODNAYA WITH SINGLE ZAPYATAYA",
    "1CFA2 ZNAMENNY NEUME STRELA: GROMNAYA, GROMOPOVODNAYA, GROMOPOVODNAYA WITH DOUBLE ZAPYATAYA",
    "1CFA5 ZNAMENNY NEUME STRELA: GROMOKRYZHEVAYA, GROMOKRYZHEVAYA POVODNAYA",
    "1CFA7 ZNAMENNY NEUME: MECHIK, MECHIK POVODNY, MECHIK KLYUCHEVOY, MECHIK KLYUCHEPOVODNY",
    "1CFAB ZNAMENNY NEUME: MECHIK KLYUCHENEPOSTOYANNY, STRELA TRYASOGLASNAYA, STRELA TRYASOPOVODNAYA",
    "1CFAE ZNAMENNY NEUME: STRELA TRYASOSTRELNAYA, OSOKA, OSOKA SVETLAYA, OSOKA TRESVETLAYA",
    "1CFB2 ZNAMENNY NEUME: OSOKA KRYUKOVAYA SVETLAYA, OSOKA KLYUCHEVAYA SVETLAYA",
    "1CFB4 ZNAMENNY NEUME: OSOKA KLYUCHEVAYA NEPOSTOYANNAYA, STRELA KRYUKOVAYA",
    "1CFB6 ZNAMENNY NEUME STRELA KRYUKOVAYA: POVODNAYA, GROMNAYA WITH SINGLE ZAPYATAYA",
    "1CFB8 ZNAMENNY NEUME STRELA KRYUKOVAYA: GROMOPOVODNAYA WITH SINGLE ZAPYATAYA, GROMNAYA, GROMOPOVODNAYA",
    "1CFBB ZNAMENNY NEUME STRELA KRYUKOVAYA: GROMOPOVODNAYA WITH DOUBLE ZAPYATAYA, GROMOKRYZHEVAYA",
    "1CFBD ZNAMENNY NEUME STRELA KRYUKOVAYA: GROMOKRYZHEVAYA POVODNAYA, TRYASKA",
    "1CFBF ZNAMENNY NEUME: KUFISMA, OBLAKO, DUDA, NEMKA, PAUK"]

end WireBridge.Text
