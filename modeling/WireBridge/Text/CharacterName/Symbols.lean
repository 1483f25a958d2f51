/-!
# Names of characters: symbols

Data of Unicode 14, in the rows that `Text.CharacterName` explains.
-/

set_option autoImplicit false

namespace WireBridge.Text

/-- Punctuation, arrows, signs of mathematics, frames and dingbats, patterns and radicals. -/
def symbolNames : List String :=
  [
    "2000: EN QUAD, EM QUAD, EN SPACE, EM SPACE, THREE-PER-EM SPACE, FOUR-PER-EM SPACE, SIX-PER-EM SPACE",
    "2007: FIGURE SPACE, PUNCTUATION SPACE, THIN SPACE, HAIR SPACE",
    "200B ZERO WIDTH: SPACE, NON-JOINER, JOINER",
    "200E: LEFT-TO-RIGHT MARK, RIGHT-TO-LEFT MARK, HYPHEN, NON-BREAKING HYPHEN, FIGURE DASH, EN DASH, EM DASH",
    "2015: HORIZONTAL BAR, DOUBLE VERTICAL LINE, DOUBLE LOW LINE, LEFT SINGLE QUOTATION MARK",
    "2019: RIGHT SINGLE QUOTATION MARK, SINGLE LOW-9 QUOTATION MARK, SINGLE HIGH-REVERSED-9 QUOTATION MARK",
    "201C: LEFT DOUBLE QUOTATION MARK, RIGHT DOUBLE QUOTATION MARK, DOUBLE LOW-9 QUOTATION MARK",
    "201F: DOUBLE HIGH-REVERSED-9 QUOTATION MARK, DAGGER, DOUBLE DAGGER, BULLET, TRIANGULAR BULLET",
    "2024: ONE DOT LEADER, TWO DOT LEADER, HORIZONTAL ELLIPSIS, HYPHENATION POINT, LINE SEPARATOR",
    "2029: PARAGRAPH SEPARATOR, LEFT-TO-RIGHT EMBEDDING, RIGHT-TO-LEFT EMBEDDING, POP DIRECTIONAL FORMATTING",
    "202D: LEFT-TO-RIGHT OVERRIDE, RIGHT-TO-LEFT OVERRIDE, NARROW NO-BREAK SPACE, PER MILLE SIGN",
    "2031: PER TEN THOUSAND SIGN, PRIME, DOUBLE PRIME, TRIPLE PRIME",
    "2035 REVERSED: PRIME, DOUBLE PRIME, TRIPLE PRIME",
    "2038: CARET, SINGLE LEFT-POINTING ANGLE QUOTATION MARK, SINGLE RIGHT-POINTING ANGLE QUOTATION MARK",
    "203B: REFERENCE MARK, DOUBLE EXCLAMATION MARK, INTERROBANG, OVERLINE, UNDERTIE, CHARACTER TIE",
    "2041: CARET INSERTION POINT, ASTERISM, HYPHEN BULLET, FRACTION SLASH, LEFT SQUARE BRACKET WITH QUILL",
    "2046: RIGHT SQUARE BRACKET WITH QUILL, DOUBLE QUESTION MARK, QUESTION EXCLAMATION MARK",
    "2049: EXCLAMATION QUESTION MARK, TIRONIAN SIGN ET, REVERSED PILCROW SIGN, BLACK LEFTWARDS BULLET",
    "204D: BLACK RIGHTWARDS BULLET, LOW ASTERISK, REVERSED SEMICOLON, CLOSE UP",
    "2051: TWO ASTERISKS ALIGNED VERTICALLY, COMMERCIAL MINUS SIGN, SWUNG DASH, INVERTED UNDERTIE",
    "2055: FLOWER PUNCTUATION MARK, THREE DOT PUNCTUATION, QUADRUPLE PRIME, FOUR DOT PUNCTUATION",
    "2059: FIVE DOT PUNCTUATION, TWO DOT PUNCTUATION, FOUR DOT MARK, DOTTED CROSS, TRICOLON",
    "205E: VERTICAL FOUR DOTS, MEDIUM MATHEMATICAL SPACE, WORD JOINER, FUNCTION APPLICATION",
    "2062 INVISIBLE: TIMES, SEPARATOR, PLUS",
    "2066: LEFT-TO-RIGHT ISOLATE, RIGHT-TO-LEFT ISOLATE, FIRST STRONG ISOLATE, POP DIRECTIONAL ISOLATE",
    "206A: INHIBIT SYMMETRIC SWAPPING, ACTIVATE SYMMETRIC SWAPPING, INHIBIT ARABIC FORM SHAPING",
    "206D: ACTIVATE ARABIC FORM SHAPING, NATIONAL DIGIT SHAPES, NOMINAL DIGIT SHAPES",
    "2070 SUPERSCRIPT: ZERO, LATIN SMALL LETTER I",
    "2074 SUPERSCRIPT: FOUR, FIVE, SIX, SEVEN, EIGHT, NINE, PLUS SIGN, MINUS, EQUALS SIGN, LEFT PARENTHESIS",
    "207E SUPERSCRIPT: RIGHT PARENTHESIS, LATIN SMALL LETTER N",
    "2080 SUBSCRIPT: ZERO, ONE, TWO, THREE, FOUR, FIVE, SIX, SEVEN, EIGHT, NINE, PLUS SIGN, MINUS",
    "208C SUBSCRIPT: EQUALS SIGN, LEFT PARENTHESIS, RIGHT PARENTHESIS",
    "2090 LATIN SUBSCRIPT SMALL LETTER: A, E, O, X, SCHWA, H, K, L, M, N, P, S, T",
    "20A0: EURO-CURRENCY SIGN, COLON SIGN, CRUZEIRO SIGN, FRENCH FRANC SIGN, LIRA SIGN, MILL SIGN, NAIRA SIGN",
    "20A7: PESETA SIGN, RUPEE SIGN, WON SIGN, NEW SHEQEL SIGN, DONG SIGN, EURO SIGN, KIP SIGN, TUGRIK SIGN",
    "20AF: DRACHMA SIGN, GERMAN PENNY SIGN, PESO SIGN, GUARANI SIGN, AUSTRAL SIGN, HRYVNIA SIGN, CEDI SIGN",
    "20B6: LIVRE TOURNOIS SIGN, SPESMILO SIGN, TENGE SIGN, INDIAN RUPEE SIGN, TURKISH LIRA SIGN",
    "20BB: NORDIC MARK SIGN, MANAT SIGN, RUBLE SIGN, LARI SIGN, BITCOIN SIGN, SOM SIGN",
    "20D0 COMBINING: LEFT HARPOON ABOVE, RIGHT HARPOON ABOVE, LONG VERTICAL LINE OVERLAY",
    "20D3 COMBINING: SHORT VERTICAL LINE OVERLAY, ANTICLOCKWISE ARROW ABOVE, CLOCKWISE ARROW ABOVE",
    "20D6 COMBINING: LEFT ARROW ABOVE, RIGHT ARROW ABOVE, RING OVERLAY, CLOCKWISE RING OVERLAY",
    "20DA COMBINING: ANTICLOCKWISE RING OVERLAY, THREE DOTS ABOVE, FOUR DOTS ABOVE, ENCLOSING CIRCLE",
    "20DE COMBINING: ENCLOSING SQUARE, ENCLOSING DIAMOND, ENCLOSING CIRCLE BACKSLASH, LEFT RIGHT ARROW ABOVE",
    "20E2 COMBINING: ENCLOSING SCREEN, ENCLOSING KEYCAP, ENCLOSING UPWARD POINTING TRIANGLE",
    "20E5 COMBINING: REVERSE SOLIDUS OVERLAY, DOUBLE VERTICAL STROKE OVERLAY, ANNUITY SYMBOL, TRIPLE UNDERDOT",
    "20E9 COMBINING: WIDE BRIDGE ABOVE, LEFTWARDS ARROW OVERLAY, LONG DOUBLE SOLIDUS OVERLAY",
    "20EC COMBINING: RIGHTWARDS HARPOON WITH BARB DOWNWARDS, LEFTWARDS HARPOON WITH BARB DOWNWARDS",
    "20EE COMBINING: LEFT ARROW BELOW, RIGHT ARROW BELOW, ASTERISK ABOVE",
    "2100: ACCOUNT OF, ADDRESSED TO THE SUBJECT, DOUBLE-STRUCK CAPITAL C, DEGREE CELSIUS, CENTRE LINE SYMBOL",
    "2105: CARE OF, CADA UNA, EULER CONSTANT, SCRUPLE, DEGREE FAHRENHEIT, SCRIPT SMALL G, SCRIPT CAPITAL H",
    "210C: BLACK-LETTER CAPITAL H, DOUBLE-STRUCK CAPITAL H, PLANCK CONSTANT, PLANCK CONSTANT OVER TWO PI",
    "2110: SCRIPT CAPITAL I, BLACK-LETTER CAPITAL I, SCRIPT CAPITAL L, SCRIPT SMALL L, L B BAR SYMBOL",
    "2115: DOUBLE-STRUCK CAPITAL N, NUMERO SIGN, SOUND RECORDING COPYRIGHT, SCRIPT CAPITAL P",
    "2119 DOUBLE-STRUCK CAPITAL: P, Q",
    "211B: SCRIPT CAPITAL R, BLACK-LETTER CAPITAL R, DOUBLE-STRUCK CAPITAL R, PRESCRIPTION TAKE, RESPONSE",
    "2120: SERVICE MARK, TELEPHONE SIGN, TRADE MARK SIGN, VERSICLE, DOUBLE-STRUCK CAPITAL Z, OUNCE SIGN",
    "2126: OHM SIGN, INVERTED OHM SIGN, BLACK-LETTER CAPITAL Z, TURNED GREEK SMALL LETTER IOTA, KELVIN SIGN",
    "212B: ANGSTROM SIGN, SCRIPT CAPITAL B, BLACK-LETTER CAPITAL C, ESTIMATED SYMBOL, SCRIPT SMALL E",
    "2130 SCRIPT CAPITAL: E, F",
    "2132: TURNED CAPITAL F, SCRIPT CAPITAL M, SCRIPT SMALL O, ALEF SYMBOL, BET SYMBOL, GIMEL SYMBOL",
    "2138: DALET SYMBOL, INFORMATION SOURCE, ROTATED CAPITAL Q, FACSIMILE SIGN",
    "213C DOUBLE-STRUCK: SMALL PI, SMALL GAMMA, CAPITAL GAMMA, CAPITAL PI, N-ARY SUMMATION",
    "2141 TURNED SANS-SERIF CAPITAL: G, L; 2143: REVERSED SANS-SERIF CAPITAL L, TURNED SANS-SERIF CAPITAL Y",
    "2145 DOUBLE-STRUCK ITALIC: CAPITAL D, SMALL D, SMALL E, SMALL I, SMALL J",
    "214A: PROPERTY LINE, TURNED AMPERSAND, PER SIGN, AKTIESELSKAB, TURNED SMALL F",
    "214F: SYMBOL FOR SAMARITAN SOURCE",
    "2150 VULGAR FRACTION: ONE SEVENTH, ONE NINTH, ONE TENTH, ONE THIRD, TWO THIRDS, ONE FIFTH, TWO FIFTHS",
    "2157 VULGAR FRACTION: THREE FIFTHS, FOUR FIFTHS, ONE SIXTH, FIVE SIXTHS, ONE EIGHTH, THREE EIGHTHS",
    "215D VULGAR FRACTION: FIVE EIGHTHS, SEVEN EIGHTHS; 215F FRACTION NUMERATOR: ONE",
    "2160 ROMAN NUMERAL: ONE, TWO, THREE, FOUR, FIVE, SIX, SEVEN, EIGHT, NINE, TEN, ELEVEN, TWELVE, FIFTY",
    "216D ROMAN NUMERAL: ONE HUNDRED, FIVE HUNDRED, ONE THOUSAND",
    "2170 SMALL ROMAN NUMERAL: ONE, TWO, THREE, FOUR, FIVE, SIX, SEVEN, EIGHT, NINE, TEN, ELEVEN, TWELVE",
    "217C SMALL ROMAN NUMERAL: FIFTY, ONE HUNDRED, FIVE HUNDRED, ONE THOUSAND",
    "2180 ROMAN NUMERAL: ONE THOUSAND C D, FIVE THOUSAND, TEN THOUSAND, REVERSED ONE HUNDRED",
    "2184 LATIN SMALL LETTER REVERSED: C",
    "2185 ROMAN NUMERAL: SIX LATE FORM, FIFTY EARLY FORM, FIFTY THOUSAND, ONE HUNDRED THOUSAND",
    "2189 VULGAR FRACTION ZERO: THIRDS; 218A TURNED DIGIT: TWO, THREE",
    "2190: LEFTWARDS ARROW, UPWARDS ARROW, RIGHTWARDS ARROW, DOWNWARDS ARROW, LEFT RIGHT ARROW, UP DOWN ARROW",
    "2196: NORTH WEST ARROW, NORTH EAST ARROW, SOUTH EAST ARROW, SOUTH WEST ARROW",
    "219A: LEFTWARDS ARROW WITH STROKE, RIGHTWARDS ARROW WITH STROKE, LEFTWARDS WAVE ARROW",
    "219D: RIGHTWARDS WAVE ARROW, LEFTWARDS TWO HEADED ARROW, UPWARDS TWO HEADED ARROW",
    "21A0: RIGHTWARDS TWO HEADED ARROW, DOWNWARDS TWO HEADED ARROW, LEFTWARDS ARROW WITH TAIL",
    "21A3: RIGHTWARDS ARROW WITH TAIL, LEFTWARDS ARROW FROM BAR, UPWARDS ARROW FROM BAR",
    "21A6: RIGHTWARDS ARROW FROM BAR, DOWNWARDS ARROW FROM BAR, UP DOWN ARROW WITH BASE",
    "21A9: LEFTWARDS ARROW WITH HOOK, RIGHTWARDS ARROW WITH HOOK, LEFTWARDS ARROW WITH LOOP",
    "21AC: RIGHTWARDS ARROW WITH LOOP, LEFT RIGHT WAVE ARROW, LEFT RIGHT ARROW WITH STROKE",
    "21AF: DOWNWARDS ZIGZAG ARROW; 21B0 UPWARDS ARROW WITH TIP: LEFTWARDS, RIGHTWARDS",
    "21B2 DOWNWARDS ARROW WITH TIP: LEFTWARDS, RIGHTWARDS",
    "21B4: RIGHTWARDS ARROW WITH CORNER DOWNWARDS, DOWNWARDS ARROW WITH CORNER LEFTWARDS",
    "21B6: ANTICLOCKWISE TOP SEMICIRCLE ARROW, CLOCKWISE TOP SEMICIRCLE ARROW, NORTH WEST ARROW TO LONG BAR",
    "21B9: LEFTWARDS ARROW TO BAR OVER RIGHTWARDS ARROW TO BAR, ANTICLOCKWISE OPEN CIRCLE ARROW",
    "21BB: CLOCKWISE OPEN CIRCLE ARROW; 21BC LEFTWARDS HARPOON WITH BARB: UPWARDS, DOWNWARDS",
    "21BE UPWARDS HARPOON WITH BARB: RIGHTWARDS, LEFTWARDS",
    "21C0 RIGHTWARDS HARPOON WITH BARB: UPWARDS, DOWNWARDS",
    "21C2 DOWNWARDS HARPOON WITH BARB: RIGHTWARDS, LEFTWARDS",
    "21C4: RIGHTWARDS ARROW OVER LEFTWARDS ARROW, UPWARDS ARROW LEFTWARDS OF DOWNWARDS ARROW",
    "21C6: LEFTWARDS ARROW OVER RIGHTWARDS ARROW, LEFTWARDS PAIRED ARROWS, UPWARDS PAIRED ARROWS",
    "21C9: RIGHTWARDS PAIRED ARROWS, DOWNWARDS PAIRED ARROWS, LEFTWARDS HARPOON OVER RIGHTWARDS HARPOON",
    "21CC: RIGHTWARDS HARPOON OVER LEFTWARDS HARPOON, LEFTWARDS DOUBLE ARROW WITH STROKE",
    "21CE: LEFT RIGHT DOUBLE ARROW WITH STROKE, RIGHTWARDS DOUBLE ARROW WITH STROKE, LEFTWARDS DOUBLE ARROW",
    "21D1: UPWARDS DOUBLE ARROW, RIGHTWARDS DOUBLE ARROW, DOWNWARDS DOUBLE ARROW, LEFT RIGHT DOUBLE ARROW",
    "21D5: UP DOWN DOUBLE ARROW, NORTH WEST DOUBLE ARROW, NORTH EAST DOUBLE ARROW, SOUTH EAST DOUBLE ARROW",
    "21D9: SOUTH WEST DOUBLE ARROW, LEFTWARDS TRIPLE ARROW, RIGHTWARDS TRIPLE ARROW, LEFTWARDS SQUIGGLE ARROW",
    "21DD: RIGHTWARDS SQUIGGLE ARROW, UPWARDS ARROW WITH DOUBLE STROKE, DOWNWARDS ARROW WITH DOUBLE STROKE",
    "21E0: LEFTWARDS DASHED ARROW, UPWARDS DASHED ARROW, RIGHTWARDS DASHED ARROW, DOWNWARDS DASHED ARROW",
    "21E4: LEFTWARDS ARROW TO BAR, RIGHTWARDS ARROW TO BAR, LEFTWARDS WHITE ARROW, UPWARDS WHITE ARROW",
    "21E8: RIGHTWARDS WHITE ARROW, DOWNWARDS WHITE ARROW",
    "21EA UPWARDS WHITE ARROW: FROM BAR, ON PEDESTAL, ON PEDESTAL WITH HORIZONTAL BAR",
    "21ED UPWARDS WHITE ARROW: ON PEDESTAL WITH VERTICAL BAR",
    "21EE UPWARDS WHITE DOUBLE: ARROW, ARROW ON PEDESTAL",
    "21F0: RIGHTWARDS WHITE ARROW FROM WALL, NORTH WEST ARROW TO CORNER, SOUTH EAST ARROW TO CORNER",
    "21F3: UP DOWN WHITE ARROW, RIGHT ARROW WITH SMALL CIRCLE, DOWNWARDS ARROW LEFTWARDS OF UPWARDS ARROW",
    "21F6: THREE RIGHTWARDS ARROWS, LEFTWARDS ARROW WITH VERTICAL STROKE",
    "21F8: RIGHTWARDS ARROW WITH VERTICAL STROKE, LEFT RIGHT ARROW WITH VERTICAL STROKE",
    "21FA: LEFTWARDS ARROW WITH DOUBLE VERTICAL STROKE, RIGHTWARDS ARROW WITH DOUBLE VERTICAL STROKE",
    "21FC: LEFT RIGHT ARROW WITH DOUBLE VERTICAL STROKE, LEFTWARDS OPEN-HEADED ARROW",
    "21FE: RIGHTWARDS OPEN-HEADED ARROW, LEFT RIGHT OPEN-HEADED ARROW, FOR ALL, COMPLEMENT",
    "2202: PARTIAL DIFFERENTIAL, THERE EXISTS, THERE DOES NOT EXIST, EMPTY SET, INCREMENT, NABLA, ELEMENT OF",
    "2209: NOT AN ELEMENT OF, SMALL ELEMENT OF, CONTAINS AS MEMBER, DOES NOT CONTAIN AS MEMBER",
    "220D: SMALL CONTAINS AS MEMBER, END OF PROOF, N-ARY PRODUCT, N-ARY COPRODUCT, N-ARY SUMMATION",
    "2212: MINUS SIGN, MINUS-OR-PLUS SIGN, DOT PLUS, DIVISION SLASH, SET MINUS, ASTERISK OPERATOR",
    "2218: RING OPERATOR, BULLET OPERATOR, SQUARE ROOT, CUBE ROOT, FOURTH ROOT, PROPORTIONAL TO, INFINITY",
    "221F: RIGHT ANGLE, ANGLE, MEASURED ANGLE, SPHERICAL ANGLE, DIVIDES, DOES NOT DIVIDE, PARALLEL TO",
    "2226: NOT PARALLEL TO, LOGICAL AND, LOGICAL OR, INTERSECTION, UNION, INTEGRAL, DOUBLE INTEGRAL",
    "222D: TRIPLE INTEGRAL, CONTOUR INTEGRAL, SURFACE INTEGRAL, VOLUME INTEGRAL, CLOCKWISE INTEGRAL",
    "2232: CLOCKWISE CONTOUR INTEGRAL, ANTICLOCKWISE CONTOUR INTEGRAL, THEREFORE, BECAUSE, RATIO, PROPORTION",
    "2238: DOT MINUS, EXCESS, GEOMETRIC PROPORTION, HOMOTHETIC, TILDE OPERATOR, REVERSED TILDE",
    "223E: INVERTED LAZY S, SINE WAVE, WREATH PRODUCT, NOT TILDE, MINUS TILDE, ASYMPTOTICALLY EQUAL TO",
    "2244: NOT ASYMPTOTICALLY EQUAL TO; 2245 APPROXIMATELY: EQUAL TO, BUT NOT ACTUALLY EQUAL TO",
    "2247: NEITHER APPROXIMATELY NOR ACTUALLY EQUAL TO, ALMOST EQUAL TO, NOT ALMOST EQUAL TO",
    "224A: ALMOST EQUAL OR EQUAL TO, TRIPLE TILDE, ALL EQUAL TO, EQUIVALENT TO, GEOMETRICALLY EQUIVALENT TO",
    "224F: DIFFERENCE BETWEEN, APPROACHES THE LIMIT, GEOMETRICALLY EQUAL TO",
    "2252: APPROXIMATELY EQUAL TO OR THE IMAGE OF, IMAGE OF OR APPROXIMATELY EQUAL TO, COLON EQUALS",
    "2255: EQUALS COLON, RING IN EQUAL TO, RING EQUAL TO, CORRESPONDS TO, ESTIMATES, EQUIANGULAR TO",
    "225B: STAR EQUALS, DELTA EQUAL TO, EQUAL TO BY DEFINITION, MEASURED BY, QUESTIONED EQUAL TO",
    "2260: NOT EQUAL TO, IDENTICAL TO, NOT IDENTICAL TO, STRICTLY EQUIVALENT TO, LESS-THAN OR EQUAL TO",
    "2265: GREATER-THAN OR EQUAL TO, LESS-THAN OVER EQUAL TO, GREATER-THAN OVER EQUAL TO",
    "2268: LESS-THAN BUT NOT EQUAL TO, GREATER-THAN BUT NOT EQUAL TO, MUCH LESS-THAN, MUCH GREATER-THAN",
    "226C: BETWEEN, NOT EQUIVALENT TO, NOT LESS-THAN, NOT GREATER-THAN, NEITHER LESS-THAN NOR EQUAL TO",
    "2271: NEITHER GREATER-THAN NOR EQUAL TO, LESS-THAN OR EQUIVALENT TO, GREATER-THAN OR EQUIVALENT TO",
    "2274: NEITHER LESS-THAN NOR EQUIVALENT TO, NEITHER GREATER-THAN NOR EQUIVALENT TO",
    "2276: LESS-THAN OR GREATER-THAN, GREATER-THAN OR LESS-THAN, NEITHER LESS-THAN NOR GREATER-THAN",
    "2279: NEITHER GREATER-THAN NOR LESS-THAN, PRECEDES, SUCCEEDS, PRECEDES OR EQUAL TO, SUCCEEDS OR EQUAL TO",
    "227E: PRECEDES OR EQUIVALENT TO, SUCCEEDS OR EQUIVALENT TO, DOES NOT PRECEDE, DOES NOT SUCCEED",
    "2282: SUBSET OF, SUPERSET OF, NOT A SUBSET OF, NOT A SUPERSET OF, SUBSET OF OR EQUAL TO",
    "2287: SUPERSET OF OR EQUAL TO, NEITHER A SUBSET OF NOR EQUAL TO, NEITHER A SUPERSET OF NOR EQUAL TO",
    "228A: SUBSET OF WITH NOT EQUAL TO, SUPERSET OF WITH NOT EQUAL TO, MULTISET",
    "228D MULTISET: MULTIPLICATION, UNION",
    "228F SQUARE: IMAGE OF, ORIGINAL OF, IMAGE OF OR EQUAL TO, ORIGINAL OF OR EQUAL TO, CAP, CUP",
    "2295 CIRCLED: PLUS, MINUS, TIMES, DIVISION SLASH, DOT OPERATOR, RING OPERATOR, ASTERISK OPERATOR, EQUALS",
    "229D CIRCLED: DASH; 229E SQUARED: PLUS, MINUS, TIMES, DOT OPERATOR",
    "22A2: RIGHT TACK, LEFT TACK, DOWN TACK, UP TACK, ASSERTION, MODELS, TRUE, FORCES",
    "22AA: TRIPLE VERTICAL BAR RIGHT TURNSTILE, DOUBLE VERTICAL BAR DOUBLE RIGHT TURNSTILE, DOES NOT PROVE",
    "22AD: NOT TRUE, DOES NOT FORCE, NEGATED DOUBLE VERTICAL BAR DOUBLE RIGHT TURNSTILE",
    "22B0: PRECEDES UNDER RELATION, SUCCEEDS UNDER RELATION, NORMAL SUBGROUP OF, CONTAINS AS NORMAL SUBGROUP",
    "22B4: NORMAL SUBGROUP OF OR EQUAL TO, CONTAINS AS NORMAL SUBGROUP OR EQUAL TO, ORIGINAL OF, IMAGE OF",
    "22B8: MULTIMAP, HERMITIAN CONJUGATE MATRIX, INTERCALATE, XOR, NAND, NOR, RIGHT ANGLE WITH ARC",
    "22BF: RIGHT TRIANGLE; 22C0 N-ARY: LOGICAL AND, LOGICAL OR, INTERSECTION, UNION",
    "22C4: DIAMOND OPERATOR, DOT OPERATOR, STAR OPERATOR, DIVISION TIMES, BOWTIE",
    "22C9: LEFT NORMAL FACTOR SEMIDIRECT PRODUCT, RIGHT NORMAL FACTOR SEMIDIRECT PRODUCT",
    "22CB: LEFT SEMIDIRECT PRODUCT, RIGHT SEMIDIRECT PRODUCT, REVERSED TILDE EQUALS",
    "22CE CURLY LOGICAL: OR, AND; 22D0 DOUBLE: SUBSET, SUPERSET, INTERSECTION, UNION",
    "22D4: PITCHFORK, EQUAL AND PARALLEL TO, LESS-THAN WITH DOT, GREATER-THAN WITH DOT, VERY MUCH LESS-THAN",
    "22D9: VERY MUCH GREATER-THAN, LESS-THAN EQUAL TO OR GREATER-THAN, GREATER-THAN EQUAL TO OR LESS-THAN",
    "22DC EQUAL TO OR: LESS-THAN, GREATER-THAN, PRECEDES, SUCCEEDS",
    "22E0 DOES NOT: PRECEDE OR EQUAL, SUCCEED OR EQUAL",
    "22E2 NOT SQUARE: IMAGE OF OR EQUAL TO, ORIGINAL OF OR EQUAL TO",
    "22E4 SQUARE: IMAGE OF OR NOT EQUAL TO, ORIGINAL OF OR NOT EQUAL TO",
    "22E6: LESS-THAN BUT NOT EQUIVALENT TO, GREATER-THAN BUT NOT EQUIVALENT TO",
    "22E8: PRECEDES BUT NOT EQUIVALENT TO, SUCCEEDS BUT NOT EQUIVALENT TO, NOT NORMAL SUBGROUP OF",
    "22EB: DOES NOT CONTAIN AS NORMAL SUBGROUP, NOT NORMAL SUBGROUP OF OR EQUAL TO",
    "22ED: DOES NOT CONTAIN AS NORMAL SUBGROUP OR EQUAL, VERTICAL ELLIPSIS, MIDLINE HORIZONTAL ELLIPSIS",
    "22F0: UP RIGHT DIAGONAL ELLIPSIS, DOWN RIGHT DIAGONAL ELLIPSIS",
    "22F2 ELEMENT OF WITH: LONG HORIZONTAL STROKE, VERTICAL BAR AT END OF HORIZONTAL STROKE",
    "22F4 SMALL ELEMENT OF WITH VERTICAL BAR AT END OF HORIZONTAL: STROKE",
    "22F5 ELEMENT OF WITH: DOT ABOVE, OVERBAR; 22F7 SMALL ELEMENT OF WITH: OVERBAR",
    "22F8 ELEMENT OF WITH: UNDERBAR, TWO HORIZONTAL STROKES",
    "22FA CONTAINS WITH: LONG HORIZONTAL STROKE, VERTICAL BAR AT END OF HORIZONTAL STROKE",
    "22FC: SMALL CONTAINS WITH VERTICAL BAR AT END OF HORIZONTAL STROKE, CONTAINS WITH OVERBAR",
    "22FE: SMALL CONTAINS WITH OVERBAR, Z NOTATION BAG MEMBERSHIP, DIAMETER SIGN, ELECTRIC ARROW, HOUSE",
    "2303: UP ARROWHEAD, DOWN ARROWHEAD, PROJECTIVE, PERSPECTIVE, WAVY LINE, LEFT CEILING, RIGHT CEILING",
    "230A: LEFT FLOOR, RIGHT FLOOR, BOTTOM RIGHT CROP, BOTTOM LEFT CROP, TOP RIGHT CROP, TOP LEFT CROP",
    "2310: REVERSED NOT SIGN, SQUARE LOZENGE, ARC, SEGMENT, SECTOR, TELEPHONE RECORDER, POSITION INDICATOR",
    "2317: VIEWDATA SQUARE, PLACE OF INTEREST SIGN, TURNED NOT SIGN, WATCH, HOURGLASS, TOP LEFT CORNER",
    "231D: TOP RIGHT CORNER, BOTTOM LEFT CORNER, BOTTOM RIGHT CORNER, TOP HALF INTEGRAL, BOTTOM HALF INTEGRAL",
    "2322: FROWN, SMILE, UP ARROWHEAD BETWEEN TWO HORIZONTAL BARS, OPTION KEY, ERASE TO THE RIGHT",
    "2327: X IN A RECTANGLE BOX, KEYBOARD, LEFT-POINTING ANGLE BRACKET, RIGHT-POINTING ANGLE BRACKET",
    "232B: ERASE TO THE LEFT, BENZENE RING, CYLINDRICITY, ALL AROUND-PROFILE, SYMMETRY, TOTAL RUNOUT",
    "2331: DIMENSION ORIGIN, CONICAL TAPER, SLOPE, COUNTERBORE, COUNTERSINK",
    "2336 APL FUNCTIONAL SYMBOL: I-BEAM, SQUISH QUAD, QUAD EQUAL, QUAD DIVIDE, QUAD DIAMOND, QUAD JOT",
    "233C APL FUNCTIONAL SYMBOL: QUAD CIRCLE, CIRCLE STILE, CIRCLE JOT, SLASH BAR, BACKSLASH BAR, QUAD SLASH",
    "2342 APL FUNCTIONAL SYMBOL: QUAD BACKSLASH, QUAD LESS-THAN, QUAD GREATER-THAN, LEFTWARDS VANE",
    "2346 APL FUNCTIONAL SYMBOL: RIGHTWARDS VANE, QUAD LEFTWARDS ARROW, QUAD RIGHTWARDS ARROW",
    "2349 APL FUNCTIONAL SYMBOL: CIRCLE BACKSLASH, DOWN TACK UNDERBAR, DELTA STILE, QUAD DOWN CARET",
    "234D APL FUNCTIONAL SYMBOL: QUAD DELTA, DOWN TACK JOT, UPWARDS VANE, QUAD UPWARDS ARROW, UP TACK OVERBAR",
    "2352 APL FUNCTIONAL SYMBOL: DEL STILE, QUAD UP CARET, QUAD DEL, UP TACK JOT, DOWNWARDS VANE",
    "2357 APL FUNCTIONAL SYMBOL: QUAD DOWNWARDS ARROW, QUOTE UNDERBAR, DELTA UNDERBAR, DIAMOND UNDERBAR",
    "235B APL FUNCTIONAL SYMBOL: JOT UNDERBAR, CIRCLE UNDERBAR, UP SHOE JOT, QUOTE QUAD, CIRCLE STAR",
    "2360 APL FUNCTIONAL SYMBOL: QUAD COLON, UP TACK DIAERESIS, DEL DIAERESIS, STAR DIAERESIS, JOT DIAERESIS",
    "2365 APL FUNCTIONAL SYMBOL: CIRCLE DIAERESIS, DOWN SHOE STILE, LEFT SHOE STILE, TILDE DIAERESIS",
    "2369 APL FUNCTIONAL SYMBOL: GREATER-THAN DIAERESIS, COMMA BAR, DEL TILDE, ZILDE, STILE TILDE",
    "236E APL FUNCTIONAL SYMBOL: SEMICOLON UNDERBAR, QUAD NOT EQUAL, QUAD QUESTION, DOWN CARET TILDE",
    "2372 APL FUNCTIONAL SYMBOL: UP CARET TILDE, IOTA, RHO, OMEGA, ALPHA UNDERBAR, EPSILON UNDERBAR",
    "2378 APL FUNCTIONAL SYMBOL: IOTA UNDERBAR, OMEGA UNDERBAR, ALPHA",
    "237B: NOT CHECK MARK, RIGHT ANGLE WITH DOWNWARDS ZIGZAG ARROW, SHOULDERED OPEN BOX, BELL SYMBOL",
    "237F: VERTICAL LINE WITH MIDDLE DOT, INSERTION SYMBOL, CONTINUOUS UNDERLINE SYMBOL",
    "2382: DISCONTINUOUS UNDERLINE SYMBOL, EMPHASIS SYMBOL, COMPOSITION SYMBOL",
    "2385: WHITE SQUARE WITH CENTRE VERTICAL LINE, ENTER SYMBOL, ALTERNATIVE KEY SYMBOL, HELM SYMBOL",
    "2389: CIRCLED HORIZONTAL BAR WITH NOTCH, CIRCLED TRIANGLE DOWN, BROKEN CIRCLE WITH NORTHWEST ARROW",
    "238C: UNDO SYMBOL, MONOSTABLE SYMBOL, HYSTERESIS SYMBOL",
    "238F OPEN-CIRCUIT-OUTPUT: H-TYPE SYMBOL, L-TYPE SYMBOL",
    "2391: PASSIVE-PULL-DOWN-OUTPUT SYMBOL, PASSIVE-PULL-UP-OUTPUT SYMBOL, DIRECT CURRENT SYMBOL FORM TWO",
    "2394: SOFTWARE-FUNCTION SYMBOL, APL FUNCTIONAL SYMBOL QUAD, DECIMAL SEPARATOR KEY SYMBOL, PREVIOUS PAGE",
    "2398: NEXT PAGE, PRINT SCREEN SYMBOL, CLEAR SCREEN SYMBOL",
    "239B LEFT PARENTHESIS: UPPER HOOK, EXTENSION, LOWER HOOK",
    "239E RIGHT PARENTHESIS: UPPER HOOK, EXTENSION, LOWER HOOK",
    "23A1 LEFT SQUARE BRACKET: UPPER CORNER, EXTENSION, LOWER CORNER",
    "23A4 RIGHT SQUARE BRACKET: UPPER CORNER, EXTENSION, LOWER CORNER",
    "23A7 LEFT CURLY BRACKET: UPPER HOOK, MIDDLE PIECE, LOWER HOOK; 23AA CURLY BRACKET: EXTENSION",
    "23AB RIGHT CURLY BRACKET: UPPER HOOK, MIDDLE PIECE, LOWER HOOK",
    "23AE: INTEGRAL EXTENSION, HORIZONTAL LINE EXTENSION, UPPER LEFT OR LOWER RIGHT CURLY BRACKET SECTION",
    "23B1: UPPER RIGHT OR LOWER LEFT CURLY BRACKET SECTION, SUMMATION TOP, SUMMATION BOTTOM",
    "23B4: TOP SQUARE BRACKET; 23B5 BOTTOM SQUARE: BRACKET, BRACKET OVER TOP SQUARE BRACKET",
    "23B7: RADICAL SYMBOL BOTTOM, LEFT VERTICAL BOX LINE, RIGHT VERTICAL BOX LINE",
    "23BA HORIZONTAL SCAN: LINE-1, LINE-3, LINE-7, LINE-9",
    "23BE DENTISTRY SYMBOL LIGHT: VERTICAL AND TOP RIGHT, VERTICAL AND BOTTOM RIGHT, VERTICAL WITH CIRCLE",
    "23C1 DENTISTRY SYMBOL LIGHT: DOWN AND HORIZONTAL WITH CIRCLE, UP AND HORIZONTAL WITH CIRCLE",
    "23C3 DENTISTRY SYMBOL LIGHT: VERTICAL WITH TRIANGLE, DOWN AND HORIZONTAL WITH TRIANGLE",
    "23C5 DENTISTRY SYMBOL LIGHT: UP AND HORIZONTAL WITH TRIANGLE, VERTICAL AND WAVE",
    "23C7 DENTISTRY SYMBOL LIGHT: DOWN AND HORIZONTAL WITH WAVE, UP AND HORIZONTAL WITH WAVE",
    "23C9 DENTISTRY SYMBOL LIGHT: DOWN AND HORIZONTAL, UP AND HORIZONTAL, VERTICAL AND TOP LEFT",
    "23CC DENTISTRY SYMBOL LIGHT: VERTICAL AND BOTTOM LEFT",
    "23CD: SQUARE FOOT, RETURN SYMBOL, EJECT SYMBOL, VERTICAL LINE EXTENSION",
    "23D1 METRICAL: BREVE, LONG OVER SHORT, SHORT OVER LONG, LONG OVER TWO SHORTS, TWO SHORTS OVER LONG",
    "23D6 METRICAL: TWO SHORTS JOINED, TRISEME, TETRASEME, PENTASEME",
    "23DA: EARTH GROUND, FUSE, TOP PARENTHESIS, BOTTOM PARENTHESIS, TOP CURLY BRACKET, BOTTOM CURLY BRACKET",
    "23E0: TOP TORTOISE SHELL BRACKET, BOTTOM TORTOISE SHELL BRACKET, WHITE TRAPEZIUM",
    "23E3: BENZENE RING WITH CIRCLE, STRAIGHTNESS, FLATNESS, AC CURRENT, ELECTRICAL INTERSECTION",
    "23E8: DECIMAL EXPONENT SYMBOL",
    "23E9 BLACK: RIGHT-POINTING DOUBLE TRIANGLE, LEFT-POINTING DOUBLE TRIANGLE, UP-POINTING DOUBLE TRIANGLE",
    "23EC BLACK: DOWN-POINTING DOUBLE TRIANGLE, RIGHT-POINTING DOUBLE TRIANGLE WITH VERTICAL BAR",
    "23EE BLACK: LEFT-POINTING DOUBLE TRIANGLE WITH VERTICAL BAR",
    "23EF BLACK: RIGHT-POINTING TRIANGLE WITH DOUBLE VERTICAL BAR",
    "23F0: ALARM CLOCK, STOPWATCH, TIMER CLOCK, HOURGLASS WITH FLOWING SAND",
    "23F4 BLACK MEDIUM: LEFT-POINTING TRIANGLE, RIGHT-POINTING TRIANGLE, UP-POINTING TRIANGLE",
    "23F7 BLACK MEDIUM: DOWN-POINTING TRIANGLE",
    "23F8: DOUBLE VERTICAL BAR, BLACK SQUARE FOR STOP, BLACK CIRCLE FOR RECORD",
    "23FB POWER: SYMBOL, ON-OFF SYMBOL, ON SYMBOL, SLEEP SYMBOL; 23FF OBSERVER EYE: SYMBOL",
    "2400 SYMBOL FOR: NULL, START OF HEADING, START OF TEXT, END OF TEXT, END OF TRANSMISSION, ENQUIRY",
    "2406 SYMBOL FOR: ACKNOWLEDGE, BELL, BACKSPACE, HORIZONTAL TABULATION, LINE FEED, VERTICAL TABULATION",
    "240C SYMBOL FOR: FORM FEED, CARRIAGE RETURN, SHIFT OUT, SHIFT IN, DATA LINK ESCAPE",
    "2411 SYMBOL FOR DEVICE CONTROL: ONE, TWO, THREE, FOUR",
    "2415 SYMBOL FOR: NEGATIVE ACKNOWLEDGE, SYNCHRONOUS IDLE, END OF TRANSMISSION BLOCK, CANCEL",
    "2419 SYMBOL FOR: END OF MEDIUM, SUBSTITUTE, ESCAPE, FILE SEPARATOR, GROUP SEPARATOR, RECORD SEPARATOR",
    "241F SYMBOL FOR: UNIT SEPARATOR, SPACE, DELETE; 2422: BLANK SYMBOL, OPEN BOX",
    "2424 SYMBOL FOR: NEWLINE, DELETE FORM TWO, SUBSTITUTE FORM TWO",
    "2440 OCR: HOOK, CHAIR, FORK, INVERTED FORK, BELT BUCKLE, BOW TIE, BRANCH BANK IDENTIFICATION",
    "2447 OCR: AMOUNT OF CHECK, DASH, CUSTOMER ACCOUNT NUMBER, DOUBLE BACKSLASH",
    "2460 CIRCLED DIGIT: ONE, TWO, THREE, FOUR, FIVE, SIX, SEVEN, EIGHT, NINE",
    "2469 CIRCLED NUMBER: TEN, ELEVEN, TWELVE, THIRTEEN, FOURTEEN, FIFTEEN, SIXTEEN, SEVENTEEN, EIGHTEEN",
    "2472 CIRCLED NUMBER: NINETEEN, TWENTY",
    "2474 PARENTHESIZED DIGIT: ONE, TWO, THREE, FOUR, FIVE, SIX, SEVEN, EIGHT, NINE",
    "247D PARENTHESIZED NUMBER: TEN, ELEVEN, TWELVE, THIRTEEN, FOURTEEN, FIFTEEN, SIXTEEN, SEVENTEEN",
    "2485 PARENTHESIZED NUMBER: EIGHTEEN, NINETEEN, TWENTY",
    "2488 DIGIT: ONE FULL STOP, TWO FULL STOP, THREE FULL STOP, FOUR FULL STOP, FIVE FULL STOP, SIX FULL STOP",
    "248E DIGIT: SEVEN FULL STOP, EIGHT FULL STOP, NINE FULL STOP",
    "2491 NUMBER: TEN FULL STOP, ELEVEN FULL STOP, TWELVE FULL STOP, THIRTEEN FULL STOP, FOURTEEN FULL STOP",
    "2496 NUMBER: FIFTEEN FULL STOP, SIXTEEN FULL STOP, SEVENTEEN FULL STOP, EIGHTEEN FULL STOP",
    "249A NUMBER: NINETEEN FULL STOP, TWENTY FULL STOP",
    "249C PARENTHESIZED LATIN SMALL LETTER: A, B, C, D, E, F, G, H, I, J, K, L, M, N, O, P, Q, R, S, T, U, V",
    "24B2 PARENTHESIZED LATIN SMALL LETTER: W, X, Y, Z",
    "24B6 CIRCLED LATIN CAPITAL LETTER: A, B, C, D, E, F, G, H, I, J, K, L, M, N, O, P, Q, R, S, T, U, V, W",
    "24CD CIRCLED LATIN CAPITAL LETTER: X, Y, Z",
    "24D0 CIRCLED LATIN SMALL LETTER: A, B, C, D, E, F, G, H, I, J, K, L, M, N, O, P, Q, R, S, T, U, V, W, X",
    "24E8 CIRCLED LATIN SMALL LETTER: Y, Z; 24EA CIRCLED DIGIT: ZERO",
    "24EB NEGATIVE CIRCLED NUMBER: ELEVEN, TWELVE, THIRTEEN, FOURTEEN, FIFTEEN, SIXTEEN, SEVENTEEN, EIGHTEEN",
    "24F3 NEGATIVE CIRCLED NUMBER: NINETEEN, TWENTY",
    "24F5 DOUBLE CIRCLED DIGIT: ONE, TWO, THREE, FOUR, FIVE, SIX, SEVEN, EIGHT, NINE",
    "24FE: DOUBLE CIRCLED NUMBER TEN, NEGATIVE CIRCLED DIGIT ZERO",
    "2500 BOX DRAWINGS: LIGHT HORIZONTAL, HEAVY HORIZONTAL, LIGHT VERTICAL, HEAVY VERTICAL",
    "2504 BOX DRAWINGS: LIGHT TRIPLE DASH HORIZONTAL, HEAVY TRIPLE DASH HORIZONTAL",
    "2506 BOX DRAWINGS: LIGHT TRIPLE DASH VERTICAL, HEAVY TRIPLE DASH VERTICAL",
    "2508 BOX DRAWINGS: LIGHT QUADRUPLE DASH HORIZONTAL, HEAVY QUADRUPLE DASH HORIZONTAL",
    "250A BOX DRAWINGS: LIGHT QUADRUPLE DASH VERTICAL, HEAVY QUADRUPLE DASH VERTICAL, LIGHT DOWN AND RIGHT",
    "250D BOX DRAWINGS: DOWN LIGHT AND RIGHT HEAVY, DOWN HEAVY AND RIGHT LIGHT, HEAVY DOWN AND RIGHT",
    "2510 BOX DRAWINGS: LIGHT DOWN AND LEFT, DOWN LIGHT AND LEFT HEAVY, DOWN HEAVY AND LEFT LIGHT",
    "2513 BOX DRAWINGS: HEAVY DOWN AND LEFT, LIGHT UP AND RIGHT, UP LIGHT AND RIGHT HEAVY",
    "2516 BOX DRAWINGS: UP HEAVY AND RIGHT LIGHT, HEAVY UP AND RIGHT, LIGHT UP AND LEFT",
    "2519 BOX DRAWINGS: UP LIGHT AND LEFT HEAVY, UP HEAVY AND LEFT LIGHT, HEAVY UP AND LEFT",
    "251C BOX DRAWINGS: LIGHT VERTICAL AND RIGHT, VERTICAL LIGHT AND RIGHT HEAVY",
    "251E BOX DRAWINGS: UP HEAVY AND RIGHT DOWN LIGHT, DOWN HEAVY AND RIGHT UP LIGHT",
    "2520 BOX DRAWINGS: VERTICAL HEAVY AND RIGHT LIGHT, DOWN LIGHT AND RIGHT UP HEAVY",
    "2522 BOX DRAWINGS: UP LIGHT AND RIGHT DOWN HEAVY, HEAVY VERTICAL AND RIGHT, LIGHT VERTICAL AND LEFT",
    "2525 BOX DRAWINGS: VERTICAL LIGHT AND LEFT HEAVY, UP HEAVY AND LEFT DOWN LIGHT",
    "2527 BOX DRAWINGS: DOWN HEAVY AND LEFT UP LIGHT, VERTICAL HEAVY AND LEFT LIGHT",
    "2529 BOX DRAWINGS: DOWN LIGHT AND LEFT UP HEAVY, UP LIGHT AND LEFT DOWN HEAVY, HEAVY VERTICAL AND LEFT",
    "252C BOX DRAWINGS: LIGHT DOWN AND HORIZONTAL, LEFT HEAVY AND RIGHT DOWN LIGHT",
    "252E BOX DRAWINGS: RIGHT HEAVY AND LEFT DOWN LIGHT, DOWN LIGHT AND HORIZONTAL HEAVY",
    "2530 BOX DRAWINGS: DOWN HEAVY AND HORIZONTAL LIGHT, RIGHT LIGHT AND LEFT DOWN HEAVY",
    "2532 BOX DRAWINGS: LEFT LIGHT AND RIGHT DOWN HEAVY, HEAVY DOWN AND HORIZONTAL, LIGHT UP AND HORIZONTAL",
    "2535 BOX DRAWINGS: LEFT HEAVY AND RIGHT UP LIGHT, RIGHT HEAVY AND LEFT UP LIGHT",
    "2537 BOX DRAWINGS: UP LIGHT AND HORIZONTAL HEAVY, UP HEAVY AND HORIZONTAL LIGHT",
    "2539 BOX DRAWINGS: RIGHT LIGHT AND LEFT UP HEAVY, LEFT LIGHT AND RIGHT UP HEAVY, HEAVY UP AND HORIZONTAL",
    "253C BOX DRAWINGS: LIGHT VERTICAL AND HORIZONTAL, LEFT HEAVY AND RIGHT VERTICAL LIGHT",
    "253E BOX DRAWINGS: RIGHT HEAVY AND LEFT VERTICAL LIGHT, VERTICAL LIGHT AND HORIZONTAL HEAVY",
    "2540 BOX DRAWINGS: UP HEAVY AND DOWN HORIZONTAL LIGHT, DOWN HEAVY AND UP HORIZONTAL LIGHT",
    "2542 BOX DRAWINGS: VERTICAL HEAVY AND HORIZONTAL LIGHT, LEFT UP HEAVY AND RIGHT DOWN LIGHT",
    "2544 BOX DRAWINGS: RIGHT UP HEAVY AND LEFT DOWN LIGHT, LEFT DOWN HEAVY AND RIGHT UP LIGHT",
    "2546 BOX DRAWINGS: RIGHT DOWN HEAVY AND LEFT UP LIGHT, DOWN LIGHT AND UP HORIZONTAL HEAVY",
    "2548 BOX DRAWINGS: UP LIGHT AND DOWN HORIZONTAL HEAVY, RIGHT LIGHT AND LEFT VERTICAL HEAVY",
    "254A BOX DRAWINGS: LEFT LIGHT AND RIGHT VERTICAL HEAVY, HEAVY VERTICAL AND HORIZONTAL",
    "254C BOX DRAWINGS: LIGHT DOUBLE DASH HORIZONTAL, HEAVY DOUBLE DASH HORIZONTAL",
    "254E BOX DRAWINGS: LIGHT DOUBLE DASH VERTICAL, HEAVY DOUBLE DASH VERTICAL, DOUBLE HORIZONTAL",
    "2551 BOX DRAWINGS: DOUBLE VERTICAL, DOWN SINGLE AND RIGHT DOUBLE, DOWN DOUBLE AND RIGHT SINGLE",
    "2554 BOX DRAWINGS: DOUBLE DOWN AND RIGHT, DOWN SINGLE AND LEFT DOUBLE, DOWN DOUBLE AND LEFT SINGLE",
    "2557 BOX DRAWINGS: DOUBLE DOWN AND LEFT, UP SINGLE AND RIGHT DOUBLE, UP DOUBLE AND RIGHT SINGLE",
    "255A BOX DRAWINGS: DOUBLE UP AND RIGHT, UP SINGLE AND LEFT DOUBLE, UP DOUBLE AND LEFT SINGLE",
    "255D BOX DRAWINGS: DOUBLE UP AND LEFT, VERTICAL SINGLE AND RIGHT DOUBLE",
    "255F BOX DRAWINGS: VERTICAL DOUBLE AND RIGHT SINGLE, DOUBLE VERTICAL AND RIGHT",
    "2561 BOX DRAWINGS: VERTICAL SINGLE AND LEFT DOUBLE, VERTICAL DOUBLE AND LEFT SINGLE",
    "2563 BOX DRAWINGS: DOUBLE VERTICAL AND LEFT, DOWN SINGLE AND HORIZONTAL DOUBLE",
    "2565 BOX DRAWINGS: DOWN DOUBLE AND HORIZONTAL SINGLE, DOUBLE DOWN AND HORIZONTAL",
    "2567 BOX DRAWINGS: UP SINGLE AND HORIZONTAL DOUBLE, UP DOUBLE AND HORIZONTAL SINGLE",
    "2569 BOX DRAWINGS: DOUBLE UP AND HORIZONTAL, VERTICAL SINGLE AND HORIZONTAL DOUBLE",
    "256B BOX DRAWINGS: VERTICAL DOUBLE AND HORIZONTAL SINGLE, DOUBLE VERTICAL AND HORIZONTAL",
    "256D BOX DRAWINGS LIGHT: ARC DOWN AND RIGHT, ARC DOWN AND LEFT, ARC UP AND LEFT, ARC UP AND RIGHT",
    "2571 BOX DRAWINGS LIGHT: DIAGONAL UPPER RIGHT TO LOWER LEFT, DIAGONAL UPPER LEFT TO LOWER RIGHT",
    "2573 BOX DRAWINGS LIGHT: DIAGONAL CROSS, LEFT, UP, RIGHT, DOWN",
    "2578 BOX DRAWINGS: HEAVY LEFT, HEAVY UP, HEAVY RIGHT, HEAVY DOWN, LIGHT LEFT AND HEAVY RIGHT",
    "257D BOX DRAWINGS: LIGHT UP AND HEAVY DOWN, HEAVY LEFT AND LIGHT RIGHT, HEAVY UP AND LIGHT DOWN",
    "2580 UPPER HALF: BLOCK",
    "2581 LOWER: ONE EIGHTH BLOCK, ONE QUARTER BLOCK, THREE EIGHTHS BLOCK, HALF BLOCK, FIVE EIGHTHS BLOCK",
    "2586 LOWER: THREE QUARTERS BLOCK, SEVEN EIGHTHS BLOCK; 2588 FULL: BLOCK",
    "2589 LEFT: SEVEN EIGHTHS BLOCK, THREE QUARTERS BLOCK, FIVE EIGHTHS BLOCK, HALF BLOCK",
    "258D LEFT: THREE EIGHTHS BLOCK, ONE QUARTER BLOCK, ONE EIGHTH BLOCK",
    "2590: RIGHT HALF BLOCK, LIGHT SHADE, MEDIUM SHADE, DARK SHADE, UPPER ONE EIGHTH BLOCK",
    "2595: RIGHT ONE EIGHTH BLOCK; 2596 QUADRANT LOWER: LEFT, RIGHT",
    "2598 QUADRANT UPPER: LEFT, LEFT AND LOWER LEFT AND LOWER RIGHT, LEFT AND LOWER RIGHT",
    "259B QUADRANT UPPER: LEFT AND UPPER RIGHT AND LOWER LEFT, LEFT AND UPPER RIGHT AND LOWER RIGHT, RIGHT",
    "259E QUADRANT UPPER: RIGHT AND LOWER LEFT, RIGHT AND LOWER LEFT AND LOWER RIGHT",
    "25A0: BLACK SQUARE, WHITE SQUARE; 25A2 WHITE SQUARE: WITH ROUNDED CORNERS, CONTAINING BLACK SMALL SQUARE",
    "25A4 SQUARE WITH: HORIZONTAL FILL, VERTICAL FILL, ORTHOGONAL CROSSHATCH FILL",
    "25A7 SQUARE WITH: UPPER LEFT TO LOWER RIGHT FILL, UPPER RIGHT TO LOWER LEFT FILL",
    "25A9 SQUARE WITH: DIAGONAL CROSSHATCH FILL",
    "25AA: BLACK SMALL SQUARE, WHITE SMALL SQUARE, BLACK RECTANGLE, WHITE RECTANGLE, BLACK VERTICAL RECTANGLE",
    "25AF: WHITE VERTICAL RECTANGLE, BLACK PARALLELOGRAM, WHITE PARALLELOGRAM, BLACK UP-POINTING TRIANGLE",
    "25B3: WHITE UP-POINTING TRIANGLE, BLACK UP-POINTING SMALL TRIANGLE, WHITE UP-POINTING SMALL TRIANGLE",
    "25B6: BLACK RIGHT-POINTING TRIANGLE, WHITE RIGHT-POINTING TRIANGLE, BLACK RIGHT-POINTING SMALL TRIANGLE",
    "25B9: WHITE RIGHT-POINTING SMALL TRIANGLE, BLACK RIGHT-POINTING POINTER, WHITE RIGHT-POINTING POINTER",
    "25BC: BLACK DOWN-POINTING TRIANGLE, WHITE DOWN-POINTING TRIANGLE, BLACK DOWN-POINTING SMALL TRIANGLE",
    "25BF: WHITE DOWN-POINTING SMALL TRIANGLE, BLACK LEFT-POINTING TRIANGLE, WHITE LEFT-POINTING TRIANGLE",
    "25C2: BLACK LEFT-POINTING SMALL TRIANGLE, WHITE LEFT-POINTING SMALL TRIANGLE",
    "25C4: BLACK LEFT-POINTING POINTER, WHITE LEFT-POINTING POINTER, BLACK DIAMOND, WHITE DIAMOND",
    "25C8: WHITE DIAMOND CONTAINING BLACK SMALL DIAMOND, FISHEYE, LOZENGE, WHITE CIRCLE, DOTTED CIRCLE",
    "25CD: CIRCLE WITH VERTICAL FILL, BULLSEYE, BLACK CIRCLE",
    "25D0 CIRCLE WITH: LEFT HALF BLACK, RIGHT HALF BLACK, LOWER HALF BLACK, UPPER HALF BLACK",
    "25D4 CIRCLE WITH: UPPER RIGHT QUADRANT BLACK, ALL BUT UPPER LEFT QUADRANT BLACK",
    "25D6: LEFT HALF BLACK CIRCLE, RIGHT HALF BLACK CIRCLE, INVERSE BULLET, INVERSE WHITE CIRCLE",
    "25DA: UPPER HALF INVERSE WHITE CIRCLE, LOWER HALF INVERSE WHITE CIRCLE, UPPER LEFT QUADRANT CIRCULAR ARC",
    "25DD: UPPER RIGHT QUADRANT CIRCULAR ARC, LOWER RIGHT QUADRANT CIRCULAR ARC",
    "25DF: LOWER LEFT QUADRANT CIRCULAR ARC, UPPER HALF CIRCLE, LOWER HALF CIRCLE",
    "25E2 BLACK: LOWER RIGHT TRIANGLE, LOWER LEFT TRIANGLE, UPPER LEFT TRIANGLE, UPPER RIGHT TRIANGLE",
    "25E6 WHITE: BULLET; 25E7 SQUARE WITH: LEFT HALF BLACK, RIGHT HALF BLACK, UPPER LEFT DIAGONAL HALF BLACK",
    "25EA SQUARE WITH: LOWER RIGHT DIAGONAL HALF BLACK",
    "25EB WHITE: SQUARE WITH VERTICAL BISECTING LINE, UP-POINTING TRIANGLE WITH DOT",
    "25ED UP-POINTING TRIANGLE WITH: LEFT HALF BLACK, RIGHT HALF BLACK; 25EF LARGE: CIRCLE",
    "25F0 WHITE SQUARE WITH: UPPER LEFT QUADRANT, LOWER LEFT QUADRANT, LOWER RIGHT QUADRANT",
    "25F3 WHITE SQUARE WITH: UPPER RIGHT QUADRANT",
    "25F4 WHITE CIRCLE WITH: UPPER LEFT QUADRANT, LOWER LEFT QUADRANT, LOWER RIGHT QUADRANT",
    "25F7 WHITE CIRCLE WITH: UPPER RIGHT QUADRANT",
    "25F8: UPPER LEFT TRIANGLE, UPPER RIGHT TRIANGLE, LOWER LEFT TRIANGLE, WHITE MEDIUM SQUARE",
    "25FC: BLACK MEDIUM SQUARE, WHITE MEDIUM SMALL SQUARE, BLACK MEDIUM SMALL SQUARE, LOWER RIGHT TRIANGLE",
    "2600: BLACK SUN WITH RAYS, CLOUD, UMBRELLA, SNOWMAN, COMET, BLACK STAR, WHITE STAR, LIGHTNING",
    "2608: THUNDERSTORM, SUN, ASCENDING NODE, DESCENDING NODE, CONJUNCTION, OPPOSITION, BLACK TELEPHONE",
    "260F: WHITE TELEPHONE, BALLOT BOX; 2611 BALLOT BOX WITH: CHECK, X",
    "2613: SALTIRE, UMBRELLA WITH RAIN DROPS, HOT BEVERAGE, WHITE SHOGI PIECE, BLACK SHOGI PIECE, SHAMROCK",
    "2619: REVERSED ROTATED FLORAL HEART BULLET, BLACK LEFT POINTING INDEX, BLACK RIGHT POINTING INDEX",
    "261C WHITE: LEFT POINTING INDEX, UP POINTING INDEX, RIGHT POINTING INDEX, DOWN POINTING INDEX",
    "2620: SKULL AND CROSSBONES, CAUTION SIGN, RADIOACTIVE SIGN, BIOHAZARD SIGN, CADUCEUS, ANKH",
    "2626: ORTHODOX CROSS, CHI RHO, CROSS OF LORRAINE, CROSS OF JERUSALEM, STAR AND CRESCENT, FARSI SYMBOL",
    "262C: ADI SHAKTI, HAMMER AND SICKLE, PEACE SYMBOL, YIN YANG",
    "2630 TRIGRAM FOR: HEAVEN, LAKE, FIRE, THUNDER, WIND, WATER, MOUNTAIN, EARTH",
    "2638: WHEEL OF DHARMA, WHITE FROWNING FACE, WHITE SMILING FACE, BLACK SMILING FACE, WHITE SUN WITH RAYS",
    "263D: FIRST QUARTER MOON, LAST QUARTER MOON, MERCURY, FEMALE SIGN, EARTH, MALE SIGN, JUPITER, SATURN",
    "2645: URANUS, NEPTUNE, PLUTO, ARIES, TAURUS, GEMINI, CANCER, LEO, VIRGO, LIBRA, SCORPIUS, SAGITTARIUS",
    "2651: CAPRICORN, AQUARIUS, PISCES; 2654 WHITE CHESS: KING, QUEEN, ROOK, BISHOP, KNIGHT, PAWN",
    "265A BLACK CHESS: KING, QUEEN, ROOK, BISHOP, KNIGHT, PAWN",
    "2660: BLACK SPADE SUIT, WHITE HEART SUIT, WHITE DIAMOND SUIT, BLACK CLUB SUIT, WHITE SPADE SUIT",
    "2665: BLACK HEART SUIT, BLACK DIAMOND SUIT, WHITE CLUB SUIT, HOT SPRINGS, QUARTER NOTE, EIGHTH NOTE",
    "266B BEAMED: EIGHTH NOTES, SIXTEENTH NOTES; 266D MUSIC: FLAT SIGN, NATURAL SIGN, SHARP SIGN",
    "2670: WEST SYRIAC CROSS, EAST SYRIAC CROSS, UNIVERSAL RECYCLING SYMBOL",
    "2673 RECYCLING SYMBOL FOR: TYPE-1 PLASTICS, TYPE-2 PLASTICS, TYPE-3 PLASTICS, TYPE-4 PLASTICS",
    "2677 RECYCLING SYMBOL FOR: TYPE-5 PLASTICS, TYPE-6 PLASTICS, TYPE-7 PLASTICS, GENERIC MATERIALS",
    "267B: BLACK UNIVERSAL RECYCLING SYMBOL, RECYCLED PAPER SYMBOL, PARTIALLY-RECYCLED PAPER SYMBOL",
    "267E: PERMANENT PAPER SIGN, WHEELCHAIR SYMBOL; 2680 DIE: FACE-1, FACE-2, FACE-3, FACE-4, FACE-5, FACE-6",
    "2686 WHITE CIRCLE WITH: DOT RIGHT, TWO DOTS; 2688 BLACK CIRCLE WITH: WHITE DOT RIGHT, TWO WHITE DOTS",
    "268A MONOGRAM FOR: YANG, YIN; 268C DIGRAM FOR: GREATER YANG, LESSER YIN, LESSER YANG, GREATER YIN",
    "2690: WHITE FLAG, BLACK FLAG, HAMMER AND PICK, ANCHOR, CROSSED SWORDS, STAFF OF AESCULAPIUS, SCALES",
    "2697: ALEMBIC, FLOWER, GEAR, STAFF OF HERMES, ATOM SYMBOL, FLEUR-DE-LIS, OUTLINED WHITE STAR",
    "269E THREE LINES CONVERGING: RIGHT, LEFT",
    "26A0: WARNING SIGN, HIGH VOLTAGE SIGN, DOUBLED FEMALE SIGN, DOUBLED MALE SIGN",
    "26A4: INTERLOCKED FEMALE AND MALE SIGN, MALE AND FEMALE SIGN",
    "26A6 MALE WITH STROKE: SIGN, AND MALE AND FEMALE SIGN",
    "26A8: VERTICAL MALE WITH STROKE SIGN, HORIZONTAL MALE WITH STROKE SIGN",
    "26AA MEDIUM: WHITE CIRCLE, BLACK CIRCLE, SMALL WHITE CIRCLE",
    "26AD: MARRIAGE SYMBOL, DIVORCE SYMBOL, UNMARRIED PARTNERSHIP SYMBOL, COFFIN, FUNERAL URN, NEUTER, CERES",
    "26B4: PALLAS, JUNO, VESTA, CHIRON, BLACK MOON LILITH, SEXTILE, SEMISEXTILE, QUINCUNX, SESQUIQUADRATE",
    "26BD: SOCCER BALL, BASEBALL, SQUARED KEY; 26C0 WHITE DRAUGHTS: MAN, KING; 26C2 BLACK DRAUGHTS: MAN, KING",
    "26C4: SNOWMAN WITHOUT SNOW, SUN BEHIND CLOUD, RAIN, BLACK SNOWMAN, THUNDER CLOUD AND RAIN",
    "26C9: TURNED WHITE SHOGI PIECE, TURNED BLACK SHOGI PIECE, WHITE DIAMOND IN SQUARE, CROSSING LANES",
    "26CD: DISABLED CAR, OPHIUCHUS, PICK, CAR SLIDING, HELMET WITH WHITE CROSS, CIRCLED CROSSING LANES",
    "26D3: CHAINS, NO ENTRY, ALTERNATE ONE-WAY LEFT WAY TRAFFIC, BLACK TWO-WAY LEFT WAY TRAFFIC",
    "26D7: WHITE TWO-WAY LEFT WAY TRAFFIC, BLACK LEFT LANE MERGE, WHITE LEFT LANE MERGE, DRIVE SLOW SIGN",
    "26DB: HEAVY WHITE DOWN-POINTING TRIANGLE, LEFT CLOSED ENTRY, SQUARED SALTIRE",
    "26DE: FALLING DIAGONAL IN WHITE CIRCLE IN BLACK SQUARE, BLACK TRUCK",
    "26E0 RESTRICTED LEFT: ENTRY-1, ENTRY-2",
    "26E2: ASTRONOMICAL SYMBOL FOR URANUS, HEAVY CIRCLE WITH STROKE AND TWO DOTS ABOVE, PENTAGRAM",
    "26E5: RIGHT-HANDED INTERLACED PENTAGRAM, LEFT-HANDED INTERLACED PENTAGRAM, INVERTED PENTAGRAM",
    "26E8: BLACK CROSS ON SHIELD, SHINTO SHRINE, CHURCH, CASTLE, HISTORIC SITE, GEAR WITHOUT HUB",
    "26EE: GEAR WITH HANDLES, MAP SYMBOL FOR LIGHTHOUSE, MOUNTAIN, UMBRELLA ON GROUND, FOUNTAIN, FLAG IN HOLE",
    "26F4: FERRY, SAILBOAT, SQUARE FOUR CORNERS, SKIER, ICE SKATE, PERSON WITH BALL, TENT",
    "26FB: JAPANESE BANK SYMBOL, HEADSTONE GRAVEYARD SYMBOL, FUEL PUMP, CUP ON BLACK SQUARE",
    "26FF: WHITE FLAG WITH HORIZONTAL MIDDLE BLACK STRIPE, BLACK SAFETY SCISSORS, UPPER BLADE SCISSORS",
    "2702: BLACK SCISSORS, LOWER BLADE SCISSORS, WHITE SCISSORS, WHITE HEAVY CHECK MARK",
    "2706: TELEPHONE LOCATION SIGN, TAPE DRIVE, AIRPLANE, ENVELOPE, RAISED FIST, RAISED HAND, VICTORY HAND",
    "270D: WRITING HAND, LOWER RIGHT PENCIL, PENCIL, UPPER RIGHT PENCIL, WHITE NIB, BLACK NIB, CHECK MARK",
    "2714: HEAVY CHECK MARK, MULTIPLICATION X, HEAVY MULTIPLICATION X, BALLOT X, HEAVY BALLOT X",
    "2719: OUTLINED GREEK CROSS, HEAVY GREEK CROSS, OPEN CENTRE CROSS, HEAVY OPEN CENTRE CROSS, LATIN CROSS",
    "271E: SHADOWED WHITE LATIN CROSS, OUTLINED LATIN CROSS, MALTESE CROSS, STAR OF DAVID",
    "2722: FOUR TEARDROP-SPOKED ASTERISK, FOUR BALLOON-SPOKED ASTERISK, HEAVY FOUR BALLOON-SPOKED ASTERISK",
    "2725: FOUR CLUB-SPOKED ASTERISK, BLACK FOUR POINTED STAR, WHITE FOUR POINTED STAR, SPARKLES",
    "2729: STRESS OUTLINED WHITE STAR, CIRCLED WHITE STAR, OPEN CENTRE BLACK STAR, BLACK CENTRE WHITE STAR",
    "272D: OUTLINED BLACK STAR, HEAVY OUTLINED BLACK STAR, PINWHEEL STAR, SHADOWED WHITE STAR, HEAVY ASTERISK",
    "2732: OPEN CENTRE ASTERISK, EIGHT SPOKED ASTERISK; 2734 EIGHT POINTED: BLACK STAR, PINWHEEL STAR",
    "2736: SIX POINTED BLACK STAR, EIGHT POINTED RECTILINEAR BLACK STAR",
    "2738: HEAVY EIGHT POINTED RECTILINEAR BLACK STAR, TWELVE POINTED BLACK STAR, SIXTEEN POINTED ASTERISK",
    "273B: TEARDROP-SPOKED ASTERISK, OPEN CENTRE TEARDROP-SPOKED ASTERISK, HEAVY TEARDROP-SPOKED ASTERISK",
    "273E: SIX PETALLED BLACK AND WHITE FLORETTE, BLACK FLORETTE, WHITE FLORETTE",
    "2741: EIGHT PETALLED OUTLINED BLACK FLORETTE, CIRCLED OPEN CENTRE EIGHT POINTED STAR",
    "2743: HEAVY TEARDROP-SPOKED PINWHEEL ASTERISK, SNOWFLAKE, TIGHT TRIFOLIATE SNOWFLAKE",
    "2746: HEAVY CHEVRON SNOWFLAKE, SPARKLE, HEAVY SPARKLE, BALLOON-SPOKED ASTERISK",
    "274A: EIGHT TEARDROP-SPOKED PROPELLER ASTERISK, HEAVY EIGHT TEARDROP-SPOKED PROPELLER ASTERISK",
    "274C: CROSS MARK, SHADOWED WHITE CIRCLE, NEGATIVE SQUARED CROSS MARK",
    "274F: LOWER RIGHT DROP-SHADOWED WHITE SQUARE, UPPER RIGHT DROP-SHADOWED WHITE SQUARE",
    "2751: LOWER RIGHT SHADOWED WHITE SQUARE, UPPER RIGHT SHADOWED WHITE SQUARE, BLACK QUESTION MARK ORNAMENT",
    "2754: WHITE QUESTION MARK ORNAMENT, WHITE EXCLAMATION MARK ORNAMENT, BLACK DIAMOND MINUS WHITE X",
    "2757: HEAVY EXCLAMATION MARK SYMBOL, LIGHT VERTICAL BAR, MEDIUM VERTICAL BAR",
    "275A HEAVY: VERTICAL BAR, SINGLE TURNED COMMA QUOTATION MARK ORNAMENT",
    "275C HEAVY: SINGLE COMMA QUOTATION MARK ORNAMENT, DOUBLE TURNED COMMA QUOTATION MARK ORNAMENT",
    "275E HEAVY: DOUBLE COMMA QUOTATION MARK ORNAMENT, LOW SINGLE COMMA QUOTATION MARK ORNAMENT",
    "2760 HEAVY: LOW DOUBLE COMMA QUOTATION MARK ORNAMENT",
    "2761: CURVED STEM PARAGRAPH SIGN ORNAMENT, HEAVY EXCLAMATION MARK ORNAMENT",
    "2763: HEAVY HEART EXCLAMATION MARK ORNAMENT, HEAVY BLACK HEART, ROTATED HEAVY BLACK HEART BULLET",
    "2766: FLORAL HEART, ROTATED FLORAL HEART BULLET",
    "2768 MEDIUM: LEFT PARENTHESIS ORNAMENT, RIGHT PARENTHESIS ORNAMENT, FLATTENED LEFT PARENTHESIS ORNAMENT",
    "276B MEDIUM: FLATTENED RIGHT PARENTHESIS ORNAMENT, LEFT-POINTING ANGLE BRACKET ORNAMENT",
    "276D MEDIUM: RIGHT-POINTING ANGLE BRACKET ORNAMENT",
    "276E HEAVY: LEFT-POINTING ANGLE QUOTATION MARK ORNAMENT, RIGHT-POINTING ANGLE QUOTATION MARK ORNAMENT",
    "2770 HEAVY: LEFT-POINTING ANGLE BRACKET ORNAMENT, RIGHT-POINTING ANGLE BRACKET ORNAMENT",
    "2772 LIGHT: LEFT TORTOISE SHELL BRACKET ORNAMENT, RIGHT TORTOISE SHELL BRACKET ORNAMENT",
    "2774 MEDIUM: LEFT CURLY BRACKET ORNAMENT, RIGHT CURLY BRACKET ORNAMENT",
    "2776 DINGBAT NEGATIVE CIRCLED DIGIT: ONE, TWO, THREE, FOUR, FIVE, SIX, SEVEN, EIGHT, NINE",
    "277F DINGBAT NEGATIVE CIRCLED NUMBER: TEN",
    "2780 DINGBAT CIRCLED SANS-SERIF DIGIT: ONE, TWO, THREE, FOUR, FIVE, SIX, SEVEN, EIGHT, NINE",
    "2789 DINGBAT CIRCLED SANS-SERIF NUMBER: TEN",
    "278A DINGBAT NEGATIVE CIRCLED SANS-SERIF DIGIT: ONE, TWO, THREE, FOUR, FIVE, SIX, SEVEN, EIGHT, NINE",
    "2793 DINGBAT NEGATIVE CIRCLED SANS-SERIF NUMBER: TEN",
    "2794 HEAVY: WIDE-HEADED RIGHTWARDS ARROW, PLUS SIGN, MINUS SIGN, DIVISION SIGN, SOUTH EAST ARROW",
    "2799 HEAVY: RIGHTWARDS ARROW, NORTH EAST ARROW",
    "279B: DRAFTING POINT RIGHTWARDS ARROW, HEAVY ROUND-TIPPED RIGHTWARDS ARROW",
    "279D: TRIANGLE-HEADED RIGHTWARDS ARROW, HEAVY TRIANGLE-HEADED RIGHTWARDS ARROW",
    "279F: DASHED TRIANGLE-HEADED RIGHTWARDS ARROW, HEAVY DASHED TRIANGLE-HEADED RIGHTWARDS ARROW",
    "27A1: BLACK RIGHTWARDS ARROW, THREE-D TOP-LIGHTED RIGHTWARDS ARROWHEAD",
    "27A3: THREE-D BOTTOM-LIGHTED RIGHTWARDS ARROWHEAD, BLACK RIGHTWARDS ARROWHEAD",
    "27A5 HEAVY BLACK CURVED: DOWNWARDS AND RIGHTWARDS ARROW, UPWARDS AND RIGHTWARDS ARROW",
    "27A7: SQUAT BLACK RIGHTWARDS ARROW, HEAVY CONCAVE-POINTED BLACK RIGHTWARDS ARROW",
    "27A9: RIGHT-SHADED WHITE RIGHTWARDS ARROW, LEFT-SHADED WHITE RIGHTWARDS ARROW",
    "27AB: BACK-TILTED SHADOWED WHITE RIGHTWARDS ARROW, FRONT-TILTED SHADOWED WHITE RIGHTWARDS ARROW",
    "27AD: HEAVY LOWER RIGHT-SHADOWED WHITE RIGHTWARDS ARROW",
    "27AE: HEAVY UPPER RIGHT-SHADOWED WHITE RIGHTWARDS ARROW",
    "27AF: NOTCHED LOWER RIGHT-SHADOWED WHITE RIGHTWARDS ARROW, CURLY LOOP",
    "27B1: NOTCHED UPPER RIGHT-SHADOWED WHITE RIGHTWARDS ARROW, CIRCLED HEAVY WHITE RIGHTWARDS ARROW",
    "27B3: WHITE-FEATHERED RIGHTWARDS ARROW",
    "27B4 BLACK-FEATHERED: SOUTH EAST ARROW, RIGHTWARDS ARROW, NORTH EAST ARROW",
    "27B7 HEAVY BLACK-FEATHERED: SOUTH EAST ARROW, RIGHTWARDS ARROW, NORTH EAST ARROW",
    "27BA: TEARDROP-BARBED RIGHTWARDS ARROW, HEAVY TEARDROP-SHANKED RIGHTWARDS ARROW",
    "27BC: WEDGE-TAILED RIGHTWARDS ARROW, HEAVY WEDGE-TAILED RIGHTWARDS ARROW, OPEN-OUTLINED RIGHTWARDS ARROW",
    "27BF: DOUBLE CURLY LOOP, THREE DIMENSIONAL ANGLE, WHITE TRIANGLE CONTAINING SMALL WHITE TRIANGLE",
    "27C2: PERPENDICULAR, OPEN SUBSET, OPEN SUPERSET, LEFT S-SHAPED BAG DELIMITER",
    "27C6: RIGHT S-SHAPED BAG DELIMITER, OR WITH DOT INSIDE, REVERSE SOLIDUS PRECEDING SUBSET",
    "27C9: SUPERSET PRECEDING SOLIDUS, VERTICAL BAR WITH HORIZONTAL STROKE, MATHEMATICAL RISING DIAGONAL",
    "27CC: LONG DIVISION, MATHEMATICAL FALLING DIAGONAL; 27CE SQUARED LOGICAL: AND, OR",
    "27D0: WHITE DIAMOND WITH CENTRED DOT, AND WITH DOT, ELEMENT OF OPENING UPWARDS",
    "27D3: LOWER RIGHT CORNER WITH DOT, UPPER LEFT CORNER WITH DOT, LEFT OUTER JOIN, RIGHT OUTER JOIN",
    "27D7: FULL OUTER JOIN, LARGE UP TACK, LARGE DOWN TACK; 27DA LEFT AND RIGHT: DOUBLE TURNSTILE, TACK",
    "27DC: LEFT MULTIMAP, LONG RIGHT TACK, LONG LEFT TACK, UP TACK WITH CIRCLE ABOVE",
    "27E0: LOZENGE DIVIDED BY HORIZONTAL RULE",
    "27E1 WHITE CONCAVE-SIDED: DIAMOND, DIAMOND WITH LEFTWARDS TICK, DIAMOND WITH RIGHTWARDS TICK",
    "27E4 WHITE SQUARE WITH: LEFTWARDS TICK, RIGHTWARDS TICK",
    "27E6 MATHEMATICAL: LEFT WHITE SQUARE BRACKET, RIGHT WHITE SQUARE BRACKET, LEFT ANGLE BRACKET",
    "27E9 MATHEMATICAL: RIGHT ANGLE BRACKET, LEFT DOUBLE ANGLE BRACKET, RIGHT DOUBLE ANGLE BRACKET",
    "27EC MATHEMATICAL: LEFT WHITE TORTOISE SHELL BRACKET, RIGHT WHITE TORTOISE SHELL BRACKET",
    "27EE MATHEMATICAL: LEFT FLATTENED PARENTHESIS, RIGHT FLATTENED PARENTHESIS",
    "27F0: UPWARDS QUADRUPLE ARROW, DOWNWARDS QUADRUPLE ARROW, ANTICLOCKWISE GAPPED CIRCLE ARROW",
    "27F3: CLOCKWISE GAPPED CIRCLE ARROW, RIGHT ARROW WITH CIRCLED PLUS",
    "27F5 LONG: LEFTWARDS ARROW, RIGHTWARDS ARROW, LEFT RIGHT ARROW, LEFTWARDS DOUBLE ARROW",
    "27F9 LONG: RIGHTWARDS DOUBLE ARROW, LEFT RIGHT DOUBLE ARROW, LEFTWARDS ARROW FROM BAR",
    "27FC LONG: RIGHTWARDS ARROW FROM BAR, LEFTWARDS DOUBLE ARROW FROM BAR, RIGHTWARDS DOUBLE ARROW FROM BAR",
    "27FF LONG: RIGHTWARDS SQUIGGLE ARROW",
    "2800 BRAILLE PATTERN: BLANK, DOTS-1, DOTS-2, DOTS-12, DOTS-3, DOTS-13, DOTS-23, DOTS-123, DOTS-4",
    "2809 BRAILLE PATTERN: DOTS-14, DOTS-24, DOTS-124, DOTS-34, DOTS-134, DOTS-234, DOTS-1234, DOTS-5",
    "2811 BRAILLE PATTERN: DOTS-15, DOTS-25, DOTS-125, DOTS-35, DOTS-135, DOTS-235, DOTS-1235, DOTS-45",
    "2819 BRAILLE PATTERN: DOTS-145, DOTS-245, DOTS-1245, DOTS-345, DOTS-1345, DOTS-2345, DOTS-12345, DOTS-6",
    "2821 BRAILLE PATTERN: DOTS-16, DOTS-26, DOTS-126, DOTS-36, DOTS-136, DOTS-236, DOTS-1236, DOTS-46",
    "2829 BRAILLE PATTERN: DOTS-146, DOTS-246, DOTS-1246, DOTS-346, DOTS-1346, DOTS-2346, DOTS-12346, DOTS-56",
    "2831 BRAILLE PATTERN: DOTS-156, DOTS-256, DOTS-1256, DOTS-356, DOTS-1356, DOTS-2356, DOTS-12356",
    "2838 BRAILLE PATTERN: DOTS-456, DOTS-1456, DOTS-2456, DOTS-12456, DOTS-3456, DOTS-13456, DOTS-23456",
    "283F BRAILLE PATTERN: DOTS-123456, DOTS-7, DOTS-17, DOTS-27, DOTS-127, DOTS-37, DOTS-137, DOTS-237",
    "2847 BRAILLE PATTERN: DOTS-1237, DOTS-47, DOTS-147, DOTS-247, DOTS-1247, DOTS-347, DOTS-1347, DOTS-2347",
    "284F BRAILLE PATTERN: DOTS-12347, DOTS-57, DOTS-157, DOTS-257, DOTS-1257, DOTS-357, DOTS-1357, DOTS-2357",
    "2857 BRAILLE PATTERN: DOTS-12357, DOTS-457, DOTS-1457, DOTS-2457, DOTS-12457, DOTS-3457, DOTS-13457",
    "285E BRAILLE PATTERN: DOTS-23457, DOTS-123457, DOTS-67, DOTS-167, DOTS-267, DOTS-1267, DOTS-367",
    "2865 BRAILLE PATTERN: DOTS-1367, DOTS-2367, DOTS-12367, DOTS-467, DOTS-1467, DOTS-2467, DOTS-12467",
    "286C BRAILLE PATTERN: DOTS-3467, DOTS-13467, DOTS-23467, DOTS-123467, DOTS-567, DOTS-1567, DOTS-2567",
    "2873 BRAILLE PATTERN: DOTS-12567, DOTS-3567, DOTS-13567, DOTS-23567, DOTS-123567, DOTS-4567, DOTS-14567",
    "287A BRAILLE PATTERN: DOTS-24567, DOTS-124567, DOTS-34567, DOTS-134567, DOTS-234567, DOTS-1234567",
    "2880 BRAILLE PATTERN: DOTS-8, DOTS-18, DOTS-28, DOTS-128, DOTS-38, DOTS-138, DOTS-238, DOTS-1238",
    "2888 BRAILLE PATTERN: DOTS-48, DOTS-148, DOTS-248, DOTS-1248, DOTS-348, DOTS-1348, DOTS-2348, DOTS-12348",
    "2890 BRAILLE PATTERN: DOTS-58, DOTS-158, DOTS-258, DOTS-1258, DOTS-358, DOTS-1358, DOTS-2358, DOTS-12358",
    "2898 BRAILLE PATTERN: DOTS-458, DOTS-1458, DOTS-2458, DOTS-12458, DOTS-3458, DOTS-13458, DOTS-23458",
    "289F BRAILLE PATTERN: DOTS-123458, DOTS-68, DOTS-168, DOTS-268, DOTS-1268, DOTS-368, DOTS-1368",
    "28A6 BRAILLE PATTERN: DOTS-2368, DOTS-12368, DOTS-468, DOTS-1468, DOTS-2468, DOTS-12468, DOTS-3468",
    "28AD BRAILLE PATTERN: DOTS-13468, DOTS-23468, DOTS-123468, DOTS-568, DOTS-1568, DOTS-2568, DOTS-12568",
    "28B4 BRAILLE PATTERN: DOTS-3568, DOTS-13568, DOTS-23568, DOTS-123568, DOTS-4568, DOTS-14568, DOTS-24568",
    "28BB BRAILLE PATTERN: DOTS-124568, DOTS-34568, DOTS-134568, DOTS-234568, DOTS-1234568, DOTS-78, DOTS-178",
    "28C2 BRAILLE PATTERN: DOTS-278, DOTS-1278, DOTS-378, DOTS-1378, DOTS-2378, DOTS-12378, DOTS-478",
    "28C9 BRAILLE PATTERN: DOTS-1478, DOTS-2478, DOTS-12478, DOTS-3478, DOTS-13478, DOTS-23478, DOTS-123478",
    "28D0 BRAILLE PATTERN: DOTS-578, DOTS-1578, DOTS-2578, DOTS-12578, DOTS-3578, DOTS-13578, DOTS-23578",
    "28D7 BRAILLE PATTERN: DOTS-123578, DOTS-4578, DOTS-14578, DOTS-24578, DOTS-124578, DOTS-34578",
    "28DD BRAILLE PATTERN: DOTS-134578, DOTS-234578, DOTS-1234578, DOTS-678, DOTS-1678, DOTS-2678, DOTS-12678",
    "28E4 BRAILLE PATTERN: DOTS-3678, DOTS-13678, DOTS-23678, DOTS-123678, DOTS-4678, DOTS-14678, DOTS-24678",
    "28EB BRAILLE PATTERN: DOTS-124678, DOTS-34678, DOTS-134678, DOTS-234678, DOTS-1234678, DOTS-5678",
    "28F1 BRAILLE PATTERN: DOTS-15678, DOTS-25678, DOTS-125678, DOTS-35678, DOTS-135678, DOTS-235678",
    "28F7 BRAILLE PATTERN: DOTS-1235678, DOTS-45678, DOTS-145678, DOTS-245678, DOTS-1245678, DOTS-345678",
    "28FD BRAILLE PATTERN: DOTS-1345678, DOTS-2345678, DOTS-12345678",
    "2900 RIGHTWARDS TWO-HEADED ARROW WITH: VERTICAL STROKE, DOUBLE VERTICAL STROKE",
    "2902: LEFTWARDS DOUBLE ARROW WITH VERTICAL STROKE, RIGHTWARDS DOUBLE ARROW WITH VERTICAL STROKE",
    "2904: LEFT RIGHT DOUBLE ARROW WITH VERTICAL STROKE, RIGHTWARDS TWO-HEADED ARROW FROM BAR",
    "2906: LEFTWARDS DOUBLE ARROW FROM BAR, RIGHTWARDS DOUBLE ARROW FROM BAR",
    "2908: DOWNWARDS ARROW WITH HORIZONTAL STROKE, UPWARDS ARROW WITH HORIZONTAL STROKE, UPWARDS TRIPLE ARROW",
    "290B: DOWNWARDS TRIPLE ARROW, LEFTWARDS DOUBLE DASH ARROW, RIGHTWARDS DOUBLE DASH ARROW",
    "290E: LEFTWARDS TRIPLE DASH ARROW",
    "290F RIGHTWARDS: TRIPLE DASH ARROW, TWO-HEADED TRIPLE DASH ARROW, ARROW WITH DOTTED STEM",
    "2912: UPWARDS ARROW TO BAR, DOWNWARDS ARROW TO BAR",
    "2914 RIGHTWARDS ARROW WITH TAIL WITH: VERTICAL STROKE, DOUBLE VERTICAL STROKE",
    "2916 RIGHTWARDS TWO-HEADED ARROW WITH: TAIL, TAIL WITH VERTICAL STROKE, TAIL WITH DOUBLE VERTICAL STROKE",
    "2919: LEFTWARDS ARROW-TAIL, RIGHTWARDS ARROW-TAIL, LEFTWARDS DOUBLE ARROW-TAIL",
    "291C: RIGHTWARDS DOUBLE ARROW-TAIL, LEFTWARDS ARROW TO BLACK DIAMOND, RIGHTWARDS ARROW TO BLACK DIAMOND",
    "291F: LEFTWARDS ARROW FROM BAR TO BLACK DIAMOND, RIGHTWARDS ARROW FROM BAR TO BLACK DIAMOND",
    "2921 NORTH: WEST AND SOUTH EAST ARROW, EAST AND SOUTH WEST ARROW, WEST ARROW WITH HOOK",
    "2924 NORTH: EAST ARROW WITH HOOK",
    "2925: SOUTH EAST ARROW WITH HOOK, SOUTH WEST ARROW WITH HOOK, NORTH WEST ARROW AND NORTH EAST ARROW",
    "2928: NORTH EAST ARROW AND SOUTH EAST ARROW, SOUTH EAST ARROW AND SOUTH WEST ARROW",
    "292A: SOUTH WEST ARROW AND NORTH WEST ARROW, RISING DIAGONAL CROSSING FALLING DIAGONAL",
    "292C: FALLING DIAGONAL CROSSING RISING DIAGONAL, SOUTH EAST ARROW CROSSING NORTH EAST ARROW",
    "292E: NORTH EAST ARROW CROSSING SOUTH EAST ARROW, FALLING DIAGONAL CROSSING NORTH EAST ARROW",
    "2930: RISING DIAGONAL CROSSING SOUTH EAST ARROW, NORTH EAST ARROW CROSSING NORTH WEST ARROW",
    "2932: NORTH WEST ARROW CROSSING NORTH EAST ARROW, WAVE ARROW POINTING DIRECTLY RIGHT",
    "2934 ARROW POINTING RIGHTWARDS THEN CURVING: UPWARDS, DOWNWARDS",
    "2936 ARROW POINTING DOWNWARDS THEN CURVING: LEFTWARDS, RIGHTWARDS",
    "2938: RIGHT-SIDE ARC CLOCKWISE ARROW, LEFT-SIDE ARC ANTICLOCKWISE ARROW, TOP ARC ANTICLOCKWISE ARROW",
    "293B: BOTTOM ARC ANTICLOCKWISE ARROW, TOP ARC CLOCKWISE ARROW WITH MINUS",
    "293D: TOP ARC ANTICLOCKWISE ARROW WITH PLUS, LOWER RIGHT SEMICIRCULAR CLOCKWISE ARROW",
    "293F: LOWER LEFT SEMICIRCULAR ANTICLOCKWISE ARROW, ANTICLOCKWISE CLOSED CIRCLE ARROW",
    "2941: CLOCKWISE CLOSED CIRCLE ARROW, RIGHTWARDS ARROW ABOVE SHORT LEFTWARDS ARROW",
    "2943: LEFTWARDS ARROW ABOVE SHORT RIGHTWARDS ARROW, SHORT RIGHTWARDS ARROW ABOVE LEFTWARDS ARROW",
    "2945: RIGHTWARDS ARROW WITH PLUS BELOW, LEFTWARDS ARROW WITH PLUS BELOW, RIGHTWARDS ARROW THROUGH X",
    "2948: LEFT RIGHT ARROW THROUGH SMALL CIRCLE, UPWARDS TWO-HEADED ARROW FROM SMALL CIRCLE",
    "294A: LEFT BARB UP RIGHT BARB DOWN HARPOON, LEFT BARB DOWN RIGHT BARB UP HARPOON",
    "294C: UP BARB RIGHT DOWN BARB LEFT HARPOON, UP BARB LEFT DOWN BARB RIGHT HARPOON",
    "294E: LEFT BARB UP RIGHT BARB UP HARPOON, UP BARB RIGHT DOWN BARB RIGHT HARPOON",
    "2950: LEFT BARB DOWN RIGHT BARB DOWN HARPOON, UP BARB LEFT DOWN BARB LEFT HARPOON",
    "2952: LEFTWARDS HARPOON WITH BARB UP TO BAR, RIGHTWARDS HARPOON WITH BARB UP TO BAR",
    "2954: UPWARDS HARPOON WITH BARB RIGHT TO BAR, DOWNWARDS HARPOON WITH BARB RIGHT TO BAR",
    "2956: LEFTWARDS HARPOON WITH BARB DOWN TO BAR, RIGHTWARDS HARPOON WITH BARB DOWN TO BAR",
    "2958: UPWARDS HARPOON WITH BARB LEFT TO BAR, DOWNWARDS HARPOON WITH BARB LEFT TO BAR",
    "295A: LEFTWARDS HARPOON WITH BARB UP FROM BAR, RIGHTWARDS HARPOON WITH BARB UP FROM BAR",
    "295C: UPWARDS HARPOON WITH BARB RIGHT FROM BAR, DOWNWARDS HARPOON WITH BARB RIGHT FROM BAR",
    "295E: LEFTWARDS HARPOON WITH BARB DOWN FROM BAR, RIGHTWARDS HARPOON WITH BARB DOWN FROM BAR",
    "2960: UPWARDS HARPOON WITH BARB LEFT FROM BAR, DOWNWARDS HARPOON WITH BARB LEFT FROM BAR",
    "2962: LEFTWARDS HARPOON WITH BARB UP ABOVE LEFTWARDS HARPOON WITH BARB DOWN",
    "2963: UPWARDS HARPOON WITH BARB LEFT BESIDE UPWARDS HARPOON WITH BARB RIGHT",
    "2964: RIGHTWARDS HARPOON WITH BARB UP ABOVE RIGHTWARDS HARPOON WITH BARB DOWN",
    "2965: DOWNWARDS HARPOON WITH BARB LEFT BESIDE DOWNWARDS HARPOON WITH BARB RIGHT",
    "2966 LEFTWARDS HARPOON WITH BARB: UP ABOVE RIGHTWARDS HARPOON WITH BARB UP",
    "2967 LEFTWARDS HARPOON WITH BARB: DOWN ABOVE RIGHTWARDS HARPOON WITH BARB DOWN",
    "2968 RIGHTWARDS HARPOON WITH BARB: UP ABOVE LEFTWARDS HARPOON WITH BARB UP",
    "2969 RIGHTWARDS HARPOON WITH BARB: DOWN ABOVE LEFTWARDS HARPOON WITH BARB DOWN",
    "296A LEFTWARDS HARPOON WITH BARB: UP ABOVE LONG DASH, DOWN BELOW LONG DASH",
    "296C RIGHTWARDS HARPOON WITH BARB: UP ABOVE LONG DASH, DOWN BELOW LONG DASH",
    "296E: UPWARDS HARPOON WITH BARB LEFT BESIDE DOWNWARDS HARPOON WITH BARB RIGHT",
    "296F: DOWNWARDS HARPOON WITH BARB LEFT BESIDE UPWARDS HARPOON WITH BARB RIGHT",
    "2970: RIGHT DOUBLE ARROW WITH ROUNDED HEAD, EQUALS SIGN ABOVE RIGHTWARDS ARROW",
    "2972: TILDE OPERATOR ABOVE RIGHTWARDS ARROW, LEFTWARDS ARROW ABOVE TILDE OPERATOR",
    "2974 RIGHTWARDS ARROW ABOVE: TILDE OPERATOR, ALMOST EQUAL TO",
    "2976: LESS-THAN ABOVE LEFTWARDS ARROW, LEFTWARDS ARROW THROUGH LESS-THAN",
    "2978: GREATER-THAN ABOVE RIGHTWARDS ARROW, SUBSET ABOVE RIGHTWARDS ARROW, LEFTWARDS ARROW THROUGH SUBSET",
    "297B: SUPERSET ABOVE LEFTWARDS ARROW, LEFT FISH TAIL, RIGHT FISH TAIL, UP FISH TAIL, DOWN FISH TAIL",
    "2980: TRIPLE VERTICAL BAR DELIMITER, Z NOTATION SPOT, Z NOTATION TYPE COLON, LEFT WHITE CURLY BRACKET",
    "2984: RIGHT WHITE CURLY BRACKET, LEFT WHITE PARENTHESIS, RIGHT WHITE PARENTHESIS",
    "2987 Z NOTATION: LEFT IMAGE BRACKET, RIGHT IMAGE BRACKET, LEFT BINDING BRACKET, RIGHT BINDING BRACKET",
    "298B: LEFT SQUARE BRACKET WITH UNDERBAR, RIGHT SQUARE BRACKET WITH UNDERBAR",
    "298D: LEFT SQUARE BRACKET WITH TICK IN TOP CORNER, RIGHT SQUARE BRACKET WITH TICK IN BOTTOM CORNER",
    "298F: LEFT SQUARE BRACKET WITH TICK IN BOTTOM CORNER, RIGHT SQUARE BRACKET WITH TICK IN TOP CORNER",
    "2991: LEFT ANGLE BRACKET WITH DOT, RIGHT ANGLE BRACKET WITH DOT, LEFT ARC LESS-THAN BRACKET",
    "2994: RIGHT ARC GREATER-THAN BRACKET, DOUBLE LEFT ARC GREATER-THAN BRACKET",
    "2996: DOUBLE RIGHT ARC LESS-THAN BRACKET, LEFT BLACK TORTOISE SHELL BRACKET",
    "2998: RIGHT BLACK TORTOISE SHELL BRACKET, DOTTED FENCE, VERTICAL ZIGZAG LINE",
    "299B: MEASURED ANGLE OPENING LEFT, RIGHT ANGLE VARIANT WITH SQUARE, MEASURED RIGHT ANGLE WITH DOT",
    "299E: ANGLE WITH S INSIDE, ACUTE ANGLE; 29A0 SPHERICAL ANGLE OPENING: LEFT, UP",
    "29A2: TURNED ANGLE, REVERSED ANGLE, ANGLE WITH UNDERBAR, REVERSED ANGLE WITH UNDERBAR",
    "29A6 OBLIQUE ANGLE OPENING: UP, DOWN",
    "29A8 MEASURED ANGLE WITH OPEN ARM ENDING IN ARROW POINTING: UP AND RIGHT, UP AND LEFT, DOWN AND RIGHT",
    "29AB MEASURED ANGLE WITH OPEN ARM ENDING IN ARROW POINTING: DOWN AND LEFT, RIGHT AND UP, LEFT AND UP",
    "29AE MEASURED ANGLE WITH OPEN ARM ENDING IN ARROW POINTING: RIGHT AND DOWN, LEFT AND DOWN",
    "29B0 REVERSED EMPTY: SET",
    "29B1 EMPTY SET WITH: OVERBAR, SMALL CIRCLE ABOVE, RIGHT ARROW ABOVE, LEFT ARROW ABOVE",
    "29B5 CIRCLE WITH HORIZONTAL: BAR; 29B6 CIRCLED: VERTICAL BAR, PARALLEL, REVERSE SOLIDUS, PERPENDICULAR",
    "29BA CIRCLE: DIVIDED BY HORIZONTAL BAR AND TOP HALF DIVIDED BY VERTICAL BAR, WITH SUPERIMPOSED X",
    "29BC: CIRCLED ANTICLOCKWISE-ROTATED DIVISION SIGN, UP ARROW THROUGH CIRCLE",
    "29BE CIRCLED: WHITE BULLET, BULLET, LESS-THAN, GREATER-THAN",
    "29C2 CIRCLE WITH: SMALL CIRCLE TO THE RIGHT, TWO HORIZONTAL STROKES TO THE RIGHT",
    "29C4 SQUARED: RISING DIAGONAL SLASH, FALLING DIAGONAL SLASH, ASTERISK, SMALL CIRCLE, SQUARE",
    "29C9 TWO JOINED: SQUARES; 29CA TRIANGLE WITH: DOT ABOVE, UNDERBAR",
    "29CC: S IN TRIANGLE, TRIANGLE WITH SERIFS AT BOTTOM, RIGHT TRIANGLE ABOVE LEFT TRIANGLE",
    "29CF: LEFT TRIANGLE BESIDE VERTICAL BAR, VERTICAL BAR BESIDE RIGHT TRIANGLE, BOWTIE WITH LEFT HALF BLACK",
    "29D2: BOWTIE WITH RIGHT HALF BLACK, BLACK BOWTIE, TIMES WITH LEFT HALF BLACK",
    "29D5: TIMES WITH RIGHT HALF BLACK, WHITE HOURGLASS, BLACK HOURGLASS, LEFT WIGGLY FENCE",
    "29D9: RIGHT WIGGLY FENCE, LEFT DOUBLE WIGGLY FENCE, RIGHT DOUBLE WIGGLY FENCE, INCOMPLETE INFINITY",
    "29DD: TIE OVER INFINITY, INFINITY NEGATED WITH VERTICAL BAR, DOUBLE-ENDED MULTIMAP",
    "29E0: SQUARE WITH CONTOURED OUTLINE, INCREASES AS, SHUFFLE PRODUCT",
    "29E3 EQUALS SIGN AND SLANTED: PARALLEL, PARALLEL WITH TILDE ABOVE",
    "29E5: IDENTICAL TO AND SLANTED PARALLEL, GLEICH STARK, THERMODYNAMIC",
    "29E8 DOWN-POINTING TRIANGLE WITH: LEFT HALF BLACK, RIGHT HALF BLACK",
    "29EA: BLACK DIAMOND WITH DOWN ARROW, BLACK LOZENGE, WHITE CIRCLE WITH DOWN ARROW",
    "29ED: BLACK CIRCLE WITH DOWN ARROW",
    "29EE ERROR-BARRED: WHITE SQUARE, BLACK SQUARE, WHITE DIAMOND, BLACK DIAMOND, WHITE CIRCLE, BLACK CIRCLE",
    "29F4: RULE-DELAYED, REVERSE SOLIDUS OPERATOR, SOLIDUS WITH OVERBAR",
    "29F7: REVERSE SOLIDUS WITH HORIZONTAL STROKE, BIG SOLIDUS, BIG REVERSE SOLIDUS, DOUBLE PLUS, TRIPLE PLUS",
    "29FC: LEFT-POINTING CURVED ANGLE BRACKET, RIGHT-POINTING CURVED ANGLE BRACKET, TINY, MINY",
    "2A00 N-ARY CIRCLED: DOT OPERATOR, PLUS OPERATOR, TIMES OPERATOR",
    "2A03 N-ARY UNION OPERATOR WITH: DOT, PLUS; 2A05 N-ARY SQUARE: INTERSECTION OPERATOR, UNION OPERATOR",
    "2A07 TWO LOGICAL: AND OPERATOR, OR OPERATOR",
    "2A09: N-ARY TIMES OPERATOR, MODULO TWO SUM, SUMMATION WITH INTEGRAL, QUADRUPLE INTEGRAL OPERATOR",
    "2A0D: FINITE PART INTEGRAL, INTEGRAL WITH DOUBLE STROKE, INTEGRAL AVERAGE WITH SLASH",
    "2A10: CIRCULATION FUNCTION, ANTICLOCKWISE INTEGRATION",
    "2A12 LINE INTEGRATION: WITH RECTANGULAR PATH AROUND POLE, WITH SEMICIRCULAR PATH AROUND POLE",
    "2A14 LINE INTEGRATION: NOT INCLUDING THE POLE",
    "2A15: INTEGRAL AROUND A POINT OPERATOR, QUATERNION INTEGRAL OPERATOR",
    "2A17 INTEGRAL WITH: LEFTWARDS ARROW WITH HOOK, TIMES SIGN, INTERSECTION, UNION, OVERBAR, UNDERBAR",
    "2A1D: JOIN, LARGE LEFT TRIANGLE OPERATOR; 2A1F Z NOTATION SCHEMA: COMPOSITION, PIPING, PROJECTION",
    "2A22 PLUS SIGN WITH: SMALL CIRCLE ABOVE, CIRCUMFLEX ACCENT ABOVE, TILDE ABOVE, DOT BELOW, TILDE BELOW",
    "2A27 PLUS SIGN WITH: SUBSCRIPT TWO, BLACK TRIANGLE",
    "2A29 MINUS SIGN WITH: COMMA ABOVE, DOT BELOW, FALLING DOTS, RISING DOTS",
    "2A2D PLUS SIGN IN: LEFT HALF CIRCLE, RIGHT HALF CIRCLE; 2A2F VECTOR OR CROSS: PRODUCT",
    "2A30 MULTIPLICATION SIGN WITH: DOT ABOVE, UNDERBAR",
    "2A32: SEMIDIRECT PRODUCT WITH BOTTOM CLOSED, SMASH PRODUCT",
    "2A34 MULTIPLICATION SIGN IN: LEFT HALF CIRCLE, RIGHT HALF CIRCLE",
    "2A36: CIRCLED MULTIPLICATION SIGN WITH CIRCUMFLEX ACCENT, MULTIPLICATION SIGN IN DOUBLE CIRCLE",
    "2A38: CIRCLED DIVISION SIGN, PLUS SIGN IN TRIANGLE, MINUS SIGN IN TRIANGLE",
    "2A3B: MULTIPLICATION SIGN IN TRIANGLE, INTERIOR PRODUCT, RIGHTHAND INTERIOR PRODUCT",
    "2A3E: Z NOTATION RELATIONAL COMPOSITION, AMALGAMATION OR COPRODUCT, INTERSECTION WITH DOT",
    "2A41 UNION WITH: MINUS SIGN, OVERBAR; 2A43 INTERSECTION WITH: OVERBAR, LOGICAL AND",
    "2A45: UNION WITH LOGICAL OR, UNION ABOVE INTERSECTION, INTERSECTION ABOVE UNION",
    "2A48: UNION ABOVE BAR ABOVE INTERSECTION, INTERSECTION ABOVE BAR ABOVE UNION",
    "2A4A: UNION BESIDE AND JOINED WITH UNION, INTERSECTION BESIDE AND JOINED WITH INTERSECTION",
    "2A4C CLOSED: UNION WITH SERIFS, INTERSECTION WITH SERIFS; 2A4E DOUBLE SQUARE: INTERSECTION, UNION",
    "2A50 CLOSED UNION WITH SERIFS AND SMASH: PRODUCT; 2A51 LOGICAL: AND WITH DOT ABOVE, OR WITH DOT ABOVE",
    "2A53 DOUBLE LOGICAL: AND, OR; 2A55 TWO INTERSECTING LOGICAL: AND, OR; 2A57 SLOPING LARGE: OR, AND",
    "2A59 LOGICAL: OR OVERLAPPING LOGICAL AND, AND WITH MIDDLE STEM, OR WITH MIDDLE STEM",
    "2A5C LOGICAL: AND WITH HORIZONTAL DASH, OR WITH HORIZONTAL DASH",
    "2A5E LOGICAL AND WITH: DOUBLE OVERBAR, UNDERBAR, DOUBLE UNDERBAR; 2A61 SMALL VEE WITH: UNDERBAR",
    "2A62 LOGICAL OR WITH DOUBLE: OVERBAR, UNDERBAR",
    "2A64 Z NOTATION: DOMAIN ANTIRESTRICTION, RANGE ANTIRESTRICTION",
    "2A66: EQUALS SIGN WITH DOT BELOW, IDENTICAL WITH DOT ABOVE",
    "2A68 TRIPLE HORIZONTAL BAR WITH: DOUBLE VERTICAL STROKE, TRIPLE VERTICAL STROKE",
    "2A6A TILDE OPERATOR WITH: DOT ABOVE, RISING DOTS",
    "2A6C: SIMILAR MINUS SIMILAR, CONGRUENT WITH DOT ABOVE, EQUALS WITH ASTERISK",
    "2A6F: ALMOST EQUAL TO WITH CIRCUMFLEX ACCENT, APPROXIMATELY EQUAL OR EQUAL TO",
    "2A71: EQUALS SIGN ABOVE PLUS SIGN, PLUS SIGN ABOVE EQUALS SIGN, EQUALS SIGN ABOVE TILDE OPERATOR",
    "2A74: DOUBLE COLON EQUAL, TWO CONSECUTIVE EQUALS SIGNS, THREE CONSECUTIVE EQUALS SIGNS",
    "2A77: EQUALS SIGN WITH TWO DOTS ABOVE AND TWO DOTS BELOW, EQUIVALENT WITH FOUR DOTS ABOVE",
    "2A79: LESS-THAN WITH CIRCLE INSIDE, GREATER-THAN WITH CIRCLE INSIDE, LESS-THAN WITH QUESTION MARK ABOVE",
    "2A7C: GREATER-THAN WITH QUESTION MARK ABOVE, LESS-THAN OR SLANTED EQUAL TO",
    "2A7E: GREATER-THAN OR SLANTED EQUAL TO, LESS-THAN OR SLANTED EQUAL TO WITH DOT INSIDE",
    "2A80: GREATER-THAN OR SLANTED EQUAL TO WITH DOT INSIDE, LESS-THAN OR SLANTED EQUAL TO WITH DOT ABOVE",
    "2A82: GREATER-THAN OR SLANTED EQUAL TO WITH DOT ABOVE",
    "2A83: LESS-THAN OR SLANTED EQUAL TO WITH DOT ABOVE RIGHT",
    "2A84: GREATER-THAN OR SLANTED EQUAL TO WITH DOT ABOVE LEFT, LESS-THAN OR APPROXIMATE",
    "2A86: GREATER-THAN OR APPROXIMATE, LESS-THAN AND SINGLE-LINE NOT EQUAL TO",
    "2A88: GREATER-THAN AND SINGLE-LINE NOT EQUAL TO, LESS-THAN AND NOT APPROXIMATE",
    "2A8A: GREATER-THAN AND NOT APPROXIMATE, LESS-THAN ABOVE DOUBLE-LINE EQUAL ABOVE GREATER-THAN",
    "2A8C: GREATER-THAN ABOVE DOUBLE-LINE EQUAL ABOVE LESS-THAN, LESS-THAN ABOVE SIMILAR OR EQUAL",
    "2A8E: GREATER-THAN ABOVE SIMILAR OR EQUAL, LESS-THAN ABOVE SIMILAR ABOVE GREATER-THAN",
    "2A90: GREATER-THAN ABOVE SIMILAR ABOVE LESS-THAN, LESS-THAN ABOVE GREATER-THAN ABOVE DOUBLE-LINE EQUAL",
    "2A92: GREATER-THAN ABOVE LESS-THAN ABOVE DOUBLE-LINE EQUAL",
    "2A93: LESS-THAN ABOVE SLANTED EQUAL ABOVE GREATER-THAN ABOVE SLANTED EQUAL",
    "2A94: GREATER-THAN ABOVE SLANTED EQUAL ABOVE LESS-THAN ABOVE SLANTED EQUAL",
    "2A95 SLANTED EQUAL TO OR: LESS-THAN, GREATER-THAN, LESS-THAN WITH DOT INSIDE",
    "2A98 SLANTED EQUAL TO OR: GREATER-THAN WITH DOT INSIDE",
    "2A99 DOUBLE-LINE EQUAL TO OR: LESS-THAN, GREATER-THAN",
    "2A9B DOUBLE-LINE SLANTED EQUAL TO OR: LESS-THAN, GREATER-THAN",
    "2A9D SIMILAR: OR LESS-THAN, OR GREATER-THAN, ABOVE LESS-THAN ABOVE EQUALS SIGN",
    "2AA0 SIMILAR: ABOVE GREATER-THAN ABOVE EQUALS SIGN",
    "2AA1 DOUBLE NESTED: LESS-THAN, GREATER-THAN, LESS-THAN WITH UNDERBAR",
    "2AA4 GREATER-THAN: OVERLAPPING LESS-THAN, BESIDE LESS-THAN",
    "2AA6: LESS-THAN CLOSED BY CURVE, GREATER-THAN CLOSED BY CURVE",
    "2AA8: LESS-THAN CLOSED BY CURVE ABOVE SLANTED EQUAL, GREATER-THAN CLOSED BY CURVE ABOVE SLANTED EQUAL",
    "2AAA: SMALLER THAN, LARGER THAN, SMALLER THAN OR EQUAL TO, LARGER THAN OR EQUAL TO",
    "2AAE: EQUALS SIGN WITH BUMPY ABOVE, PRECEDES ABOVE SINGLE-LINE EQUALS SIGN",
    "2AB0: SUCCEEDS ABOVE SINGLE-LINE EQUALS SIGN, PRECEDES ABOVE SINGLE-LINE NOT EQUAL TO",
    "2AB2: SUCCEEDS ABOVE SINGLE-LINE NOT EQUAL TO, PRECEDES ABOVE EQUALS SIGN, SUCCEEDS ABOVE EQUALS SIGN",
    "2AB5: PRECEDES ABOVE NOT EQUAL TO, SUCCEEDS ABOVE NOT EQUAL TO, PRECEDES ABOVE ALMOST EQUAL TO",
    "2AB8: SUCCEEDS ABOVE ALMOST EQUAL TO, PRECEDES ABOVE NOT ALMOST EQUAL TO",
    "2ABA: SUCCEEDS ABOVE NOT ALMOST EQUAL TO, DOUBLE PRECEDES, DOUBLE SUCCEEDS, SUBSET WITH DOT",
    "2ABE: SUPERSET WITH DOT, SUBSET WITH PLUS SIGN BELOW, SUPERSET WITH PLUS SIGN BELOW",
    "2AC1: SUBSET WITH MULTIPLICATION SIGN BELOW, SUPERSET WITH MULTIPLICATION SIGN BELOW",
    "2AC3: SUBSET OF OR EQUAL TO WITH DOT ABOVE, SUPERSET OF OR EQUAL TO WITH DOT ABOVE",
    "2AC5: SUBSET OF ABOVE EQUALS SIGN, SUPERSET OF ABOVE EQUALS SIGN, SUBSET OF ABOVE TILDE OPERATOR",
    "2AC8: SUPERSET OF ABOVE TILDE OPERATOR, SUBSET OF ABOVE ALMOST EQUAL TO",
    "2ACA: SUPERSET OF ABOVE ALMOST EQUAL TO, SUBSET OF ABOVE NOT EQUAL TO, SUPERSET OF ABOVE NOT EQUAL TO",
    "2ACD SQUARE: LEFT OPEN BOX OPERATOR, RIGHT OPEN BOX OPERATOR",
    "2ACF CLOSED: SUBSET, SUPERSET, SUBSET OR EQUAL TO, SUPERSET OR EQUAL TO",
    "2AD3: SUBSET ABOVE SUPERSET, SUPERSET ABOVE SUBSET, SUBSET ABOVE SUBSET",
    "2AD6 SUPERSET: ABOVE SUPERSET, BESIDE SUBSET, BESIDE AND JOINED BY DASH WITH SUBSET",
    "2AD9: ELEMENT OF OPENING DOWNWARDS, PITCHFORK WITH TEE TOP, TRANSVERSAL INTERSECTION, FORKING",
    "2ADD: NONFORKING, SHORT LEFT TACK, SHORT DOWN TACK, SHORT UP TACK, PERPENDICULAR WITH S",
    "2AE2: VERTICAL BAR TRIPLE RIGHT TURNSTILE, DOUBLE VERTICAL BAR LEFT TURNSTILE",
    "2AE4: VERTICAL BAR DOUBLE LEFT TURNSTILE, DOUBLE VERTICAL BAR DOUBLE LEFT TURNSTILE",
    "2AE6: LONG DASH FROM LEFT MEMBER OF DOUBLE VERTICAL, SHORT DOWN TACK WITH OVERBAR",
    "2AE8 SHORT UP TACK: WITH UNDERBAR, ABOVE SHORT DOWN TACK",
    "2AEA DOUBLE: DOWN TACK, UP TACK, STROKE NOT SIGN",
    "2AED: REVERSED DOUBLE STROKE NOT SIGN, DOES NOT DIVIDE WITH REVERSED NEGATION SLASH",
    "2AEF VERTICAL LINE WITH CIRCLE: ABOVE, BELOW; 2AF1 DOWN TACK WITH CIRCLE: BELOW",
    "2AF2 PARALLEL WITH: HORIZONTAL STROKE, TILDE OPERATOR",
    "2AF4 TRIPLE: VERTICAL BAR BINARY RELATION, VERTICAL BAR WITH HORIZONTAL STROKE, COLON OPERATOR",
    "2AF7 TRIPLE: NESTED LESS-THAN, NESTED GREATER-THAN",
    "2AF9 DOUBLE-LINE SLANTED: LESS-THAN OR EQUAL TO, GREATER-THAN OR EQUAL TO",
    "2AFB: TRIPLE SOLIDUS BINARY RELATION, LARGE TRIPLE VERTICAL BAR OPERATOR, DOUBLE SOLIDUS OPERATOR",
    "2AFE: WHITE VERTICAL BAR, N-ARY WHITE VERTICAL BAR, NORTH EAST WHITE ARROW, NORTH WEST WHITE ARROW",
    "2B02: SOUTH EAST WHITE ARROW, SOUTH WEST WHITE ARROW, LEFT RIGHT WHITE ARROW, LEFTWARDS BLACK ARROW",
    "2B06: UPWARDS BLACK ARROW, DOWNWARDS BLACK ARROW, NORTH EAST BLACK ARROW, NORTH WEST BLACK ARROW",
    "2B0A: SOUTH EAST BLACK ARROW, SOUTH WEST BLACK ARROW, LEFT RIGHT BLACK ARROW, UP DOWN BLACK ARROW",
    "2B0E RIGHTWARDS ARROW WITH TIP: DOWNWARDS, UPWARDS; 2B10 LEFTWARDS ARROW WITH TIP: DOWNWARDS, UPWARDS",
    "2B12 SQUARE WITH: TOP HALF BLACK, BOTTOM HALF BLACK, UPPER RIGHT DIAGONAL HALF BLACK",
    "2B15 SQUARE WITH: LOWER LEFT DIAGONAL HALF BLACK",
    "2B16 DIAMOND WITH: LEFT HALF BLACK, RIGHT HALF BLACK, TOP HALF BLACK, BOTTOM HALF BLACK",
    "2B1A: DOTTED SQUARE, BLACK LARGE SQUARE, WHITE LARGE SQUARE, BLACK VERY SMALL SQUARE",
    "2B1E: WHITE VERY SMALL SQUARE, BLACK PENTAGON, WHITE PENTAGON, WHITE HEXAGON, BLACK HEXAGON",
    "2B23: HORIZONTAL BLACK HEXAGON, BLACK LARGE CIRCLE, BLACK MEDIUM DIAMOND, WHITE MEDIUM DIAMOND",
    "2B27: BLACK MEDIUM LOZENGE, WHITE MEDIUM LOZENGE, BLACK SMALL DIAMOND, BLACK SMALL LOZENGE",
    "2B2B: WHITE SMALL LOZENGE, BLACK HORIZONTAL ELLIPSE, WHITE HORIZONTAL ELLIPSE, BLACK VERTICAL ELLIPSE",
    "2B2F: WHITE VERTICAL ELLIPSE, LEFT ARROW WITH SMALL CIRCLE, THREE LEFTWARDS ARROWS",
    "2B32: LEFT ARROW WITH CIRCLED PLUS, LONG LEFTWARDS SQUIGGLE ARROW",
    "2B34 LEFTWARDS TWO-HEADED: ARROW WITH VERTICAL STROKE, ARROW WITH DOUBLE VERTICAL STROKE, ARROW FROM BAR",
    "2B37 LEFTWARDS TWO-HEADED: TRIPLE DASH ARROW",
    "2B38 LEFTWARDS ARROW WITH: DOTTED STEM, TAIL WITH VERTICAL STROKE, TAIL WITH DOUBLE VERTICAL STROKE",
    "2B3B LEFTWARDS TWO-HEADED ARROW WITH: TAIL, TAIL WITH VERTICAL STROKE, TAIL WITH DOUBLE VERTICAL STROKE",
    "2B3E: LEFTWARDS ARROW THROUGH X, WAVE ARROW POINTING DIRECTLY LEFT, EQUALS SIGN ABOVE LEFTWARDS ARROW",
    "2B41: REVERSE TILDE OPERATOR ABOVE LEFTWARDS ARROW, LEFTWARDS ARROW ABOVE REVERSE ALMOST EQUAL TO",
    "2B43 RIGHTWARDS ARROW THROUGH: GREATER-THAN, SUPERSET",
    "2B45: LEFTWARDS QUADRUPLE ARROW, RIGHTWARDS QUADRUPLE ARROW",
    "2B47: REVERSE TILDE OPERATOR ABOVE RIGHTWARDS ARROW, RIGHTWARDS ARROW ABOVE REVERSE ALMOST EQUAL TO",
    "2B49: TILDE OPERATOR ABOVE LEFTWARDS ARROW",
    "2B4A LEFTWARDS ARROW ABOVE: ALMOST EQUAL TO, REVERSE TILDE OPERATOR",
    "2B4C: RIGHTWARDS ARROW ABOVE REVERSE TILDE OPERATOR, DOWNWARDS TRIANGLE-HEADED ZIGZAG ARROW",
    "2B4E: SHORT SLANTED NORTH ARROW, SHORT BACKSLANTED SOUTH ARROW, WHITE MEDIUM STAR, BLACK SMALL STAR",
    "2B52: WHITE SMALL STAR, BLACK RIGHT-POINTING PENTAGON, WHITE RIGHT-POINTING PENTAGON",
    "2B55 HEAVY: LARGE CIRCLE, OVAL WITH OVAL INSIDE, CIRCLE WITH CIRCLE INSIDE, CIRCLE, CIRCLED SALTIRE",
    "2B5A: SLANTED NORTH ARROW WITH HOOKED HEAD, BACKSLANTED SOUTH ARROW WITH HOOKED TAIL",
    "2B5C: SLANTED NORTH ARROW WITH HORIZONTAL TAIL, BACKSLANTED SOUTH ARROW WITH HORIZONTAL TAIL",
    "2B5E: BENT ARROW POINTING DOWNWARDS THEN NORTH EAST, SHORT BENT ARROW POINTING DOWNWARDS THEN NORTH EAST",
    "2B60: LEFTWARDS TRIANGLE-HEADED ARROW, UPWARDS TRIANGLE-HEADED ARROW, RIGHTWARDS TRIANGLE-HEADED ARROW",
    "2B63: DOWNWARDS TRIANGLE-HEADED ARROW, LEFT RIGHT TRIANGLE-HEADED ARROW, UP DOWN TRIANGLE-HEADED ARROW",
    "2B66: NORTH WEST TRIANGLE-HEADED ARROW, NORTH EAST TRIANGLE-HEADED ARROW",
    "2B68: SOUTH EAST TRIANGLE-HEADED ARROW, SOUTH WEST TRIANGLE-HEADED ARROW",
    "2B6A: LEFTWARDS TRIANGLE-HEADED DASHED ARROW, UPWARDS TRIANGLE-HEADED DASHED ARROW",
    "2B6C: RIGHTWARDS TRIANGLE-HEADED DASHED ARROW, DOWNWARDS TRIANGLE-HEADED DASHED ARROW",
    "2B6E: CLOCKWISE TRIANGLE-HEADED OPEN CIRCLE ARROW, ANTICLOCKWISE TRIANGLE-HEADED OPEN CIRCLE ARROW",
    "2B70: LEFTWARDS TRIANGLE-HEADED ARROW TO BAR, UPWARDS TRIANGLE-HEADED ARROW TO BAR",
    "2B72: RIGHTWARDS TRIANGLE-HEADED ARROW TO BAR, DOWNWARDS TRIANGLE-HEADED ARROW TO BAR",
    "2B76: NORTH WEST TRIANGLE-HEADED ARROW TO BAR, NORTH EAST TRIANGLE-HEADED ARROW TO BAR",
    "2B78: SOUTH EAST TRIANGLE-HEADED ARROW TO BAR, SOUTH WEST TRIANGLE-HEADED ARROW TO BAR",
    "2B7A: LEFTWARDS TRIANGLE-HEADED ARROW WITH DOUBLE HORIZONTAL STROKE",
    "2B7B: UPWARDS TRIANGLE-HEADED ARROW WITH DOUBLE HORIZONTAL STROKE",
    "2B7C: RIGHTWARDS TRIANGLE-HEADED ARROW WITH DOUBLE HORIZONTAL STROKE",
    "2B7D: DOWNWARDS TRIANGLE-HEADED ARROW WITH DOUBLE HORIZONTAL STROKE, HORIZONTAL TAB KEY",
    "2B7F: VERTICAL TAB KEY, LEFTWARDS TRIANGLE-HEADED ARROW OVER RIGHTWARDS TRIANGLE-HEADED ARROW",
    "2B81: UPWARDS TRIANGLE-HEADED ARROW LEFTWARDS OF DOWNWARDS TRIANGLE-HEADED ARROW",
    "2B82: RIGHTWARDS TRIANGLE-HEADED ARROW OVER LEFTWARDS TRIANGLE-HEADED ARROW",
    "2B83: DOWNWARDS TRIANGLE-HEADED ARROW LEFTWARDS OF UPWARDS TRIANGLE-HEADED ARROW",
    "2B84: LEFTWARDS TRIANGLE-HEADED PAIRED ARROWS, UPWARDS TRIANGLE-HEADED PAIRED ARROWS",
    "2B86: RIGHTWARDS TRIANGLE-HEADED PAIRED ARROWS, DOWNWARDS TRIANGLE-HEADED PAIRED ARROWS",
    "2B88: LEFTWARDS BLACK CIRCLED WHITE ARROW, UPWARDS BLACK CIRCLED WHITE ARROW",
    "2B8A: RIGHTWARDS BLACK CIRCLED WHITE ARROW, DOWNWARDS BLACK CIRCLED WHITE ARROW",
    "2B8C ANTICLOCKWISE TRIANGLE-HEADED: RIGHT U-SHAPED ARROW, BOTTOM U-SHAPED ARROW, LEFT U-SHAPED ARROW",
    "2B8F ANTICLOCKWISE TRIANGLE-HEADED: TOP U-SHAPED ARROW; 2B90 RETURN: LEFT, RIGHT",
    "2B92 NEWLINE: LEFT, RIGHT; 2B94: FOUR CORNER ARROWS CIRCLING ANTICLOCKWISE, RIGHTWARDS BLACK ARROW",
    "2B97 SYMBOL FOR TYPE A: ELECTRONICS",
    "2B98 THREE-D: TOP-LIGHTED LEFTWARDS EQUILATERAL ARROWHEAD, RIGHT-LIGHTED UPWARDS EQUILATERAL ARROWHEAD",
    "2B9A THREE-D: TOP-LIGHTED RIGHTWARDS EQUILATERAL ARROWHEAD, LEFT-LIGHTED DOWNWARDS EQUILATERAL ARROWHEAD",
    "2B9C BLACK: LEFTWARDS EQUILATERAL ARROWHEAD, UPWARDS EQUILATERAL ARROWHEAD",
    "2B9E BLACK: RIGHTWARDS EQUILATERAL ARROWHEAD, DOWNWARDS EQUILATERAL ARROWHEAD",
    "2BA0 DOWNWARDS TRIANGLE-HEADED ARROW WITH LONG TIP: LEFTWARDS, RIGHTWARDS",
    "2BA2 UPWARDS TRIANGLE-HEADED ARROW WITH LONG TIP: LEFTWARDS, RIGHTWARDS",
    "2BA4: LEFTWARDS TRIANGLE-HEADED ARROW WITH LONG TIP UPWARDS",
    "2BA5: RIGHTWARDS TRIANGLE-HEADED ARROW WITH LONG TIP UPWARDS",
    "2BA6: LEFTWARDS TRIANGLE-HEADED ARROW WITH LONG TIP DOWNWARDS",
    "2BA7: RIGHTWARDS TRIANGLE-HEADED ARROW WITH LONG TIP DOWNWARDS",
    "2BA8 BLACK CURVED: DOWNWARDS AND LEFTWARDS ARROW, DOWNWARDS AND RIGHTWARDS ARROW",
    "2BAA BLACK CURVED: UPWARDS AND LEFTWARDS ARROW, UPWARDS AND RIGHTWARDS ARROW",
    "2BAC BLACK CURVED: LEFTWARDS AND UPWARDS ARROW, RIGHTWARDS AND UPWARDS ARROW",
    "2BAE BLACK CURVED: LEFTWARDS AND DOWNWARDS ARROW, RIGHTWARDS AND DOWNWARDS ARROW",
    "2BB0 RIBBON ARROW: DOWN LEFT, DOWN RIGHT, UP LEFT, UP RIGHT, LEFT UP, RIGHT UP, LEFT DOWN, RIGHT DOWN",
    "2BB8: UPWARDS WHITE ARROW FROM BAR WITH HORIZONTAL BAR, UP ARROWHEAD IN A RECTANGLE BOX",
    "2BBA OVERLAPPING: WHITE SQUARES, WHITE AND BLACK SQUARES, BLACK SQUARES",
    "2BBD: BALLOT BOX WITH LIGHT X, CIRCLED X, CIRCLED BOLD X, BLACK SQUARE CENTRED, BLACK DIAMOND CENTRED",
    "2BC2: TURNED BLACK PENTAGON, HORIZONTAL BLACK OCTAGON, BLACK OCTAGON",
    "2BC5 BLACK MEDIUM: UP-POINTING TRIANGLE CENTRED, DOWN-POINTING TRIANGLE CENTRED",
    "2BC7 BLACK MEDIUM: LEFT-POINTING TRIANGLE CENTRED, RIGHT-POINTING TRIANGLE CENTRED",
    "2BC9: NEPTUNE FORM TWO, TOP HALF BLACK CIRCLE, BOTTOM HALF BLACK CIRCLE, LIGHT FOUR POINTED BLACK CUSP",
    "2BCD: ROTATED LIGHT FOUR POINTED BLACK CUSP, WHITE FOUR POINTED CUSP, ROTATED WHITE FOUR POINTED CUSP",
    "2BD0: SQUARE POSITION INDICATOR, UNCERTAINTY SIGN, GROUP MARK; 2BD3 PLUTO FORM: TWO, THREE, FOUR, FIVE",
    "2BD7: TRANSPLUTO, PROSERPINA, ASTRAEA, HYGIEA, PHOLUS, NESSUS, WHITE MOON SELENA, BLACK DIAMOND ON CROSS",
    "2BDF: TRUE LIGHT MOON ARTA, CUPIDO, HADES, ZEUS, KRONOS, APOLLON, ADMETOS, VULCANUS, POSEIDON",
    "2BE8: LEFT HALF BLACK STAR, RIGHT HALF BLACK STAR, STAR WITH LEFT HALF BLACK, STAR WITH RIGHT HALF BLACK",
    "2BEC: LEFTWARDS TWO-HEADED ARROW WITH TRIANGLE ARROWHEADS",
    "2BED: UPWARDS TWO-HEADED ARROW WITH TRIANGLE ARROWHEADS",
    "2BEE: RIGHTWARDS TWO-HEADED ARROW WITH TRIANGLE ARROWHEADS",
    "2BEF: DOWNWARDS TWO-HEADED ARROW WITH TRIANGLE ARROWHEADS, ERIS FORM ONE, ERIS FORM TWO, SEDNA",
    "2BF3 RUSSIAN ASTROLOGICAL SYMBOL: VIGINTILE, NOVILE, QUINTILE, BINOVILE, SENTAGON, TREDECILE",
    "2BF9: EQUALS SIGN WITH INFINITY BELOW, UNITED SYMBOL, SEPARATED SYMBOL, DOUBLED SYMBOL, PASSED SYMBOL",
    "2BFE: REVERSED RIGHT ANGLE, HELLSCHREIBER PAUSE SYMBOL",
    "2C00 GLAGOLITIC CAPITAL LETTER: AZU, BUKY, VEDE, GLAGOLI, DOBRO, YESTU, ZHIVETE, DZELO, ZEMLJA, IZHE",
    "2C0A GLAGOLITIC CAPITAL LETTER: INITIAL IZHE, I, DJERVI, KAKO, LJUDIJE, MYSLITE, NASHI, ONU, POKOJI",
    "2C13 GLAGOLITIC CAPITAL LETTER: RITSI, SLOVO, TVRIDO, UKU, FRITU, HERU, OTU, PE, SHTA, TSI, CHRIVI, SHA",
    "2C1F GLAGOLITIC CAPITAL LETTER: YERU, YERI, YATI, SPIDERY HA, YU, SMALL YUS, SMALL YUS WITH TAIL, YO",
    "2C27 GLAGOLITIC CAPITAL LETTER: IOTATED SMALL YUS, BIG YUS, IOTATED BIG YUS, FITA, IZHITSA, SHTAPIC",
    "2C2D GLAGOLITIC CAPITAL LETTER: TROKUTASTI A, LATINATE MYSLITE, CAUDATE CHRIVI",
    "2C30 GLAGOLITIC SMALL LETTER: AZU, BUKY, VEDE, GLAGOLI, DOBRO, YESTU, ZHIVETE, DZELO, ZEMLJA, IZHE",
    "2C3A GLAGOLITIC SMALL LETTER: INITIAL IZHE, I, DJERVI, KAKO, LJUDIJE, MYSLITE, NASHI, ONU, POKOJI, RITSI",
    "2C44 GLAGOLITIC SMALL LETTER: SLOVO, TVRIDO, UKU, FRITU, HERU, OTU, PE, SHTA, TSI, CHRIVI, SHA, YERU",
    "2C50 GLAGOLITIC SMALL LETTER: YERI, YATI, SPIDERY HA, YU, SMALL YUS, SMALL YUS WITH TAIL, YO",
    "2C57 GLAGOLITIC SMALL LETTER: IOTATED SMALL YUS, BIG YUS, IOTATED BIG YUS, FITA, IZHITSA, SHTAPIC",
    "2C5D GLAGOLITIC SMALL LETTER: TROKUTASTI A, LATINATE MYSLITE, CAUDATE CHRIVI",
    "2C60 LATIN: CAPITAL LETTER L WITH DOUBLE BAR, SMALL LETTER L WITH DOUBLE BAR",
    "2C62 LATIN CAPITAL LETTER: L WITH MIDDLE TILDE, P WITH STROKE, R WITH TAIL",
    "2C65 LATIN SMALL LETTER: A WITH STROKE, T WITH DIAGONAL STROKE",
    "2C67 LATIN: CAPITAL LETTER H WITH DESCENDER, SMALL LETTER H WITH DESCENDER",
    "2C69 LATIN: CAPITAL LETTER K WITH DESCENDER, SMALL LETTER K WITH DESCENDER",
    "2C6B LATIN: CAPITAL LETTER Z WITH DESCENDER, SMALL LETTER Z WITH DESCENDER",
    "2C6D LATIN CAPITAL LETTER: ALPHA, M WITH HOOK, TURNED A, TURNED ALPHA",
    "2C71 LATIN: SMALL LETTER V WITH RIGHT HOOK, CAPITAL LETTER W WITH HOOK, SMALL LETTER W WITH HOOK",
    "2C74 LATIN: SMALL LETTER V WITH CURL, CAPITAL LETTER HALF H",
    "2C76 LATIN SMALL LETTER: HALF H, TAILLESS PHI, E WITH NOTCH, TURNED R WITH TAIL, O WITH LOW RING INSIDE",
    "2C7B: LATIN LETTER SMALL CAPITAL TURNED E, LATIN SUBSCRIPT SMALL LETTER J, MODIFIER LETTER CAPITAL V",
    "2C7E LATIN CAPITAL LETTER: S WITH SWASH TAIL, Z WITH SWASH TAIL",
    "2C80 COPTIC: CAPITAL LETTER ALFA, SMALL LETTER ALFA, CAPITAL LETTER VIDA, SMALL LETTER VIDA",
    "2C84 COPTIC: CAPITAL LETTER GAMMA, SMALL LETTER GAMMA, CAPITAL LETTER DALDA, SMALL LETTER DALDA",
    "2C88 COPTIC: CAPITAL LETTER EIE, SMALL LETTER EIE, CAPITAL LETTER SOU, SMALL LETTER SOU",
    "2C8C COPTIC: CAPITAL LETTER ZATA, SMALL LETTER ZATA, CAPITAL LETTER HATE, SMALL LETTER HATE",
    "2C90 COPTIC: CAPITAL LETTER THETHE, SMALL LETTER THETHE, CAPITAL LETTER IAUDA, SMALL LETTER IAUDA",
    "2C94 COPTIC: CAPITAL LETTER KAPA, SMALL LETTER KAPA, CAPITAL LETTER LAULA, SMALL LETTER LAULA",
    "2C98 COPTIC: CAPITAL LETTER MI, SMALL LETTER MI, CAPITAL LETTER NI, SMALL LETTER NI, CAPITAL LETTER KSI",
    "2C9D COPTIC: SMALL LETTER KSI, CAPITAL LETTER O, SMALL LETTER O, CAPITAL LETTER PI, SMALL LETTER PI",
    "2CA2 COPTIC: CAPITAL LETTER RO, SMALL LETTER RO, CAPITAL LETTER SIMA, SMALL LETTER SIMA",
    "2CA6 COPTIC: CAPITAL LETTER TAU, SMALL LETTER TAU, CAPITAL LETTER UA, SMALL LETTER UA, CAPITAL LETTER FI",
    "2CAB COPTIC: SMALL LETTER FI, CAPITAL LETTER KHI, SMALL LETTER KHI, CAPITAL LETTER PSI, SMALL LETTER PSI",
    "2CB0 COPTIC: CAPITAL LETTER OOU, SMALL LETTER OOU, CAPITAL LETTER DIALECT-P ALEF",
    "2CB3 COPTIC: SMALL LETTER DIALECT-P ALEF, CAPITAL LETTER OLD COPTIC AIN, SMALL LETTER OLD COPTIC AIN",
    "2CB6 COPTIC: CAPITAL LETTER CRYPTOGRAMMIC EIE, SMALL LETTER CRYPTOGRAMMIC EIE",
    "2CB8 COPTIC: CAPITAL LETTER DIALECT-P KAPA, SMALL LETTER DIALECT-P KAPA, CAPITAL LETTER DIALECT-P NI",
    "2CBB COPTIC: SMALL LETTER DIALECT-P NI, CAPITAL LETTER CRYPTOGRAMMIC NI, SMALL LETTER CRYPTOGRAMMIC NI",
    "2CBE COPTIC: CAPITAL LETTER OLD COPTIC OOU, SMALL LETTER OLD COPTIC OOU, CAPITAL LETTER SAMPI",
    "2CC1 COPTIC: SMALL LETTER SAMPI, CAPITAL LETTER CROSSED SHEI, SMALL LETTER CROSSED SHEI",
    "2CC4 COPTIC: CAPITAL LETTER OLD COPTIC SHEI, SMALL LETTER OLD COPTIC SHEI, CAPITAL LETTER OLD COPTIC ESH",
    "2CC7 COPTIC: SMALL LETTER OLD COPTIC ESH, CAPITAL LETTER AKHMIMIC KHEI, SMALL LETTER AKHMIMIC KHEI",
    "2CCA COPTIC: CAPITAL LETTER DIALECT-P HORI, SMALL LETTER DIALECT-P HORI, CAPITAL LETTER OLD COPTIC HORI",
    "2CCD COPTIC: SMALL LETTER OLD COPTIC HORI, CAPITAL LETTER OLD COPTIC HA, SMALL LETTER OLD COPTIC HA",
    "2CD0 COPTIC: CAPITAL LETTER L-SHAPED HA, SMALL LETTER L-SHAPED HA, CAPITAL LETTER OLD COPTIC HEI",
    "2CD3 COPTIC: SMALL LETTER OLD COPTIC HEI, CAPITAL LETTER OLD COPTIC HAT, SMALL LETTER OLD COPTIC HAT",
    "2CD6 COPTIC: CAPITAL LETTER OLD COPTIC GANGIA, SMALL LETTER OLD COPTIC GANGIA",
    "2CD8 COPTIC: CAPITAL LETTER OLD COPTIC DJA, SMALL LETTER OLD COPTIC DJA, CAPITAL LETTER OLD COPTIC SHIMA",
    "2CDB COPTIC: SMALL LETTER OLD COPTIC SHIMA, CAPITAL LETTER OLD NUBIAN SHIMA",
    "2CDD COPTIC: SMALL LETTER OLD NUBIAN SHIMA, CAPITAL LETTER OLD NUBIAN NGI, SMALL LETTER OLD NUBIAN NGI",
    "2CE0 COPTIC: CAPITAL LETTER OLD NUBIAN NYI, SMALL LETTER OLD NUBIAN NYI, CAPITAL LETTER OLD NUBIAN WAU",
    "2CE3 COPTIC: SMALL LETTER OLD NUBIAN WAU",
    "2CE4 COPTIC SYMBOL: KAI, MI RO, PI RO, STAUROS, TAU RO, KHI RO, SHIMA SIMA",
    "2CEB COPTIC: CAPITAL LETTER CRYPTOGRAMMIC SHEI, SMALL LETTER CRYPTOGRAMMIC SHEI",
    "2CED COPTIC: CAPITAL LETTER CRYPTOGRAMMIC GANGIA, SMALL LETTER CRYPTOGRAMMIC GANGIA, COMBINING NI ABOVE",
    "2CF0 COPTIC: COMBINING SPIRITUS ASPER, COMBINING SPIRITUS LENIS, CAPITAL LETTER BOHAIRIC KHEI",
    "2CF3 COPTIC: SMALL LETTER BOHAIRIC KHEI",
    "2CF9 COPTIC OLD NUBIAN: FULL STOP, DIRECT QUESTION MARK, INDIRECT QUESTION MARK, VERSE DIVIDER",
    "2CFD COPTIC: FRACTION ONE HALF, FULL STOP, MORPHOLOGICAL DIVIDER",
    "2D00 GEORGIAN SMALL LETTER: AN, BAN, GAN, DON, EN, VIN, ZEN, TAN, IN, KAN, LAS, MAN, NAR, ON, PAR, ZHAR",
    "2D10 GEORGIAN SMALL LETTER: RAE, SAN, TAR, UN, PHAR, KHAR, GHAN, QAR, SHIN, CHIN, CAN, JIL, CIL, CHAR",
    "2D1E GEORGIAN SMALL LETTER: XAN, JHAN, HAE, HE, HIE, WE, HAR, HOE; 2D27 GEORGIAN SMALL LETTER: YN",
    "2D2D GEORGIAN SMALL LETTER: AEN",
    "2D30 TIFINAGH LETTER: YA, YAB, YABH, YAG, YAGHH, BERBER ACADEMY YAJ, YAJ, YAD, YADH, YADD, YADDH, YEY",
    "2D3C TIFINAGH LETTER: YAF, YAK, TUAREG YAK, YAKHH, YAH, BERBER ACADEMY YAH, TUAREG YAH, YAHH, YAA, YAKH",
    "2D46 TIFINAGH LETTER: TUAREG YAKH, YAQ, TUAREG YAQ, YI, YAZH, AHAGGAR YAZH, TUAREG YAZH, YAL, YAM, YAN",
    "2D50 TIFINAGH LETTER: TUAREG YAGN, TUAREG YANG, YAP, YU, YAR, YARR, YAGH, TUAREG YAGH, AYER YAGH, YAS",
    "2D5A TIFINAGH LETTER: YASS, YASH, YAT, YATH, YACH, YATT, YAV, YAW, YAY, YAZ, TAWELLEMET YAZ, YAZZ, YE",
    "2D67 TIFINAGH LETTER: YO; 2D6F TIFINAGH: MODIFIER LETTER LABIALIZATION MARK, SEPARATOR MARK",
    "2D7F TIFINAGH CONSONANT: JOINER",
    "2D80 ETHIOPIC SYLLABLE: LOA, MOA, ROA, SOA, SHOA, BOA, TOA, COA, NOA, NYOA, GLOTTAL OA, ZOA, DOA, DDOA",
    "2D8E ETHIOPIC SYLLABLE: JOA, THOA, CHOA, PHOA, POA, GGWA, GGWI, GGWEE, GGWE",
    "2DA0 ETHIOPIC SYLLABLE: SSA, SSU, SSI, SSAA, SSEE, SSE, SSO",
    "2DA8 ETHIOPIC SYLLABLE: CCA, CCU, CCI, CCAA, CCEE, CCE, CCO",
    "2DB0 ETHIOPIC SYLLABLE: ZZA, ZZU, ZZI, ZZAA, ZZEE, ZZE, ZZO",
    "2DB8 ETHIOPIC SYLLABLE: CCHA, CCHU, CCHI, CCHAA, CCHEE, CCHE, CCHO",
    "2DC0 ETHIOPIC SYLLABLE: QYA, QYU, QYI, QYAA, QYEE, QYE, QYO",
    "2DC8 ETHIOPIC SYLLABLE: KYA, KYU, KYI, KYAA, KYEE, KYE, KYO",
    "2DD0 ETHIOPIC SYLLABLE: XYA, XYU, XYI, XYAA, XYEE, XYE, XYO",
    "2DD8 ETHIOPIC SYLLABLE: GYA, GYU, GYI, GYAA, GYEE, GYE, GYO",
    "2DE0 COMBINING CYRILLIC LETTER: BE, VE, GHE, DE, ZHE, ZE, KA, EL, EM, EN, O, PE, ER, ES, TE, HA, TSE",
    "2DF1 COMBINING CYRILLIC LETTER: CHE, SHA, SHCHA, FITA, ES-TE, A, IE, DJERV, MONOGRAPH UK, YAT, YU",
    "2DFC COMBINING CYRILLIC LETTER: IOTIFIED A, LITTLE YUS, BIG YUS, IOTIFIED BIG YUS",
    "2E00 RIGHT ANGLE: SUBSTITUTION MARKER, DOTTED SUBSTITUTION MARKER",
    "2E02: LEFT SUBSTITUTION BRACKET, RIGHT SUBSTITUTION BRACKET, LEFT DOTTED SUBSTITUTION BRACKET",
    "2E05: RIGHT DOTTED SUBSTITUTION BRACKET, RAISED INTERPOLATION MARKER, RAISED DOTTED INTERPOLATION MARKER",
    "2E08: DOTTED TRANSPOSITION MARKER, LEFT TRANSPOSITION BRACKET, RIGHT TRANSPOSITION BRACKET",
    "2E0B: RAISED SQUARE, LEFT RAISED OMISSION BRACKET, RIGHT RAISED OMISSION BRACKET, EDITORIAL CORONIS",
    "2E0F: PARAGRAPHOS, FORKED PARAGRAPHOS, REVERSED FORKED PARAGRAPHOS, HYPODIASTOLE, DOTTED OBELOS",
    "2E14: DOWNWARDS ANCORA, UPWARDS ANCORA, DOTTED RIGHT-POINTING ANGLE, DOUBLE OBLIQUE HYPHEN",
    "2E18: INVERTED INTERROBANG, PALM BRANCH, HYPHEN WITH DIAERESIS, TILDE WITH RING ABOVE",
    "2E1C: LEFT LOW PARAPHRASE BRACKET, RIGHT LOW PARAPHRASE BRACKET; 2E1E TILDE WITH DOT: ABOVE, BELOW",
    "2E20: LEFT VERTICAL BAR WITH QUILL, RIGHT VERTICAL BAR WITH QUILL, TOP LEFT HALF BRACKET",
    "2E23: TOP RIGHT HALF BRACKET, BOTTOM LEFT HALF BRACKET, BOTTOM RIGHT HALF BRACKET",
    "2E26: LEFT SIDEWAYS U BRACKET, RIGHT SIDEWAYS U BRACKET, LEFT DOUBLE PARENTHESIS",
    "2E29: RIGHT DOUBLE PARENTHESIS, TWO DOTS OVER ONE DOT PUNCTUATION, ONE DOT OVER TWO DOTS PUNCTUATION",
    "2E2C: SQUARED FOUR DOT PUNCTUATION, FIVE DOT MARK, REVERSED QUESTION MARK, VERTICAL TILDE, RING POINT",
    "2E31: WORD SEPARATOR MIDDLE DOT, TURNED COMMA, RAISED DOT, RAISED COMMA, TURNED SEMICOLON",
    "2E36: DAGGER WITH LEFT GUARD, DAGGER WITH RIGHT GUARD, TURNED DAGGER, TOP HALF SECTION SIGN, TWO-EM DASH",
    "2E3B: THREE-EM DASH, STENOGRAPHIC FULL STOP, VERTICAL SIX DOTS, WIGGLY VERTICAL LINE, CAPITULUM",
    "2E40: DOUBLE HYPHEN, REVERSED COMMA, DOUBLE LOW-REVERSED-9 QUOTATION MARK, DASH WITH LEFT UPTURN",
    "2E44: DOUBLE SUSPENSION MARK; 2E45 INVERTED LOW: KAVYKA, KAVYKA WITH KAVYKA ABOVE",
    "2E47: LOW KAVYKA, LOW KAVYKA WITH DOT, DOUBLE STACKED COMMA, DOTTED SOLIDUS, TRIPLE DAGGER",
    "2E4C: MEDIEVAL COMMA, PARAGRAPHUS MARK, PUNCTUS ELEVATUS MARK, CORNISH VERSE DIVIDER",
    "2E50 CROSS PATTY WITH: RIGHT CROSSBAR, LEFT CROSSBAR",
    "2E52: TIRONIAN SIGN CAPITAL ET, MEDIEVAL EXCLAMATION MARK, MEDIEVAL QUESTION MARK",
    "2E55: LEFT SQUARE BRACKET WITH STROKE, RIGHT SQUARE BRACKET WITH STROKE",
    "2E57: LEFT SQUARE BRACKET WITH DOUBLE STROKE, RIGHT SQUARE BRACKET WITH DOUBLE STROKE",
    "2E59 TOP HALF: LEFT PARENTHESIS, RIGHT PARENTHESIS",
    "2E5B BOTTOM HALF: LEFT PARENTHESIS, RIGHT PARENTHESIS; 2E5D OBLIQUE: HYPHEN",
    "2E80 CJK RADICAL: REPEAT, CLIFF, SECOND ONE, SECOND TWO, SECOND THREE, PERSON, BOX, TABLE, KNIFE ONE",
    "2E89 CJK RADICAL: KNIFE TWO, DIVINATION, SEAL, SMALL ONE, SMALL TWO, LAME ONE, LAME TWO, LAME THREE",
    "2E91 CJK RADICAL: LAME FOUR, SNAKE, THREAD, SNOUT ONE, SNOUT TWO, HEART ONE, HEART TWO, HAND, RAP",
    "2E9B CJK RADICAL: CHOKE, SUN, MOON, DEATH, MOTHER, CIVILIAN, WATER ONE, WATER TWO, FIRE, PAW ONE",
    "2EA5 CJK RADICAL: PAW TWO, SIMPLIFIED HALF TREE TRUNK, COW, DOG, JADE, BOLT OF CLOTH, EYE, SPIRIT ONE",
    "2EAD CJK RADICAL: SPIRIT TWO, BAMBOO, SILK, C-SIMPLIFIED SILK, NET ONE, NET TWO, NET THREE, NET FOUR",
    "2EB5 CJK RADICAL: MESH, SHEEP, RAM, EWE, OLD, BRUSH ONE, BRUSH TWO, MEAT, MORTAR, GRASS ONE, GRASS TWO",
    "2EC0 CJK RADICAL: GRASS THREE, TIGER, CLOTHES, WEST ONE, WEST TWO, C-SIMPLIFIED SEE, SIMPLIFIED HORN",
    "2EC7 CJK RADICAL: HORN, C-SIMPLIFIED SPEECH, C-SIMPLIFIED SHELL, FOOT, C-SIMPLIFIED CART",
    "2ECC CJK RADICAL: SIMPLIFIED WALK, WALK ONE, WALK TWO, CITY, C-SIMPLIFIED GOLD, LONG ONE, LONG TWO",
    "2ED3 CJK RADICAL: C-SIMPLIFIED LONG, C-SIMPLIFIED GATE, MOUND ONE, MOUND TWO, RAIN, BLUE",
    "2ED9 CJK RADICAL C-SIMPLIFIED: TANNED LEATHER, LEAF, WIND, FLY",
    "2EDD CJK RADICAL: EAT ONE, EAT TWO, EAT THREE, C-SIMPLIFIED EAT, HEAD, C-SIMPLIFIED HORSE, BONE, GHOST",
    "2EE5 CJK RADICAL: C-SIMPLIFIED FISH, C-SIMPLIFIED BIRD, C-SIMPLIFIED SALT, SIMPLIFIED WHEAT",
    "2EE9 CJK RADICAL: SIMPLIFIED YELLOW, C-SIMPLIFIED FROG, J-SIMPLIFIED EVEN, C-SIMPLIFIED EVEN",
    "2EED CJK RADICAL: J-SIMPLIFIED TOOTH, C-SIMPLIFIED TOOTH, J-SIMPLIFIED DRAGON, C-SIMPLIFIED DRAGON",
    "2EF1 CJK RADICAL: TURTLE, J-SIMPLIFIED TURTLE, C-SIMPLIFIED TURTLE",
    "2F00 KANGXI RADICAL: ONE, LINE, DOT, SLASH, SECOND, HOOK, TWO, LID, MAN, LEGS, ENTER, EIGHT, DOWN BOX",
    "2F0D KANGXI RADICAL: COVER, ICE, TABLE, OPEN BOX, KNIFE, POWER, WRAP, SPOON, RIGHT OPEN BOX",
    "2F16 KANGXI RADICAL: HIDING ENCLOSURE, TEN, DIVINATION, SEAL, CLIFF, PRIVATE, AGAIN, MOUTH, ENCLOSURE",
    "2F1F KANGXI RADICAL: EARTH, SCHOLAR, GO, GO SLOWLY, EVENING, BIG, WOMAN, CHILD, ROOF, INCH, SMALL, LAME",
    "2F2B KANGXI RADICAL: CORPSE, SPROUT, MOUNTAIN, RIVER, WORK, ONESELF, TURBAN, DRY, SHORT THREAD",
    "2F34 KANGXI RADICAL: DOTTED CLIFF, LONG STRIDE, TWO HANDS, SHOOT, BOW, SNOUT, BRISTLE, STEP, HEART",
    "2F3D KANGXI RADICAL: HALBERD, DOOR, HAND, BRANCH, RAP, SCRIPT, DIPPER, AXE, SQUARE, NOT, SUN, SAY, MOON",
    "2F4A KANGXI RADICAL: TREE, LACK, STOP, DEATH, WEAPON, DO NOT, COMPARE, FUR, CLAN, STEAM, WATER, FIRE",
    "2F56 KANGXI RADICAL: CLAW, FATHER, DOUBLE X, HALF TREE TRUNK, SLICE, FANG, COW, DOG, PROFOUND, JADE",
    "2F60 KANGXI RADICAL: MELON, TILE, SWEET, LIFE, USE, FIELD, BOLT OF CLOTH, SICKNESS, DOTTED TENT, WHITE",
    "2F6A KANGXI RADICAL: SKIN, DISH, EYE, SPEAR, ARROW, STONE, SPIRIT, TRACK, GRAIN, CAVE, STAND, BAMBOO",
    "2F76 KANGXI RADICAL: RICE, SILK, JAR, NET, SHEEP, FEATHER, OLD, AND, PLOW, EAR, BRUSH, MEAT, MINISTER",
    "2F83 KANGXI RADICAL: SELF, ARRIVE, MORTAR, TONGUE, OPPOSE, BOAT, STOPPING, COLOR, GRASS, TIGER, INSECT",
    "2F8E KANGXI RADICAL: BLOOD, WALK ENCLOSURE, CLOTHES, WEST, SEE, HORN, SPEECH, VALLEY, BEAN, PIG, BADGER",
    "2F99 KANGXI RADICAL: SHELL, RED, RUN, FOOT, BODY, CART, BITTER, MORNING, WALK, CITY, WINE, DISTINGUISH",
    "2FA5 KANGXI RADICAL: VILLAGE, GOLD, LONG, GATE, MOUND, SLAVE, SHORT TAILED BIRD, RAIN, BLUE, WRONG, FACE",
    "2FB0 KANGXI RADICAL: LEATHER, TANNED LEATHER, LEEK, SOUND, LEAF, WIND, FLY, EAT, HEAD, FRAGRANT, HORSE",
    "2FBB KANGXI RADICAL: BONE, TALL, HAIR, FIGHT, SACRIFICIAL WINE, CAULDRON, GHOST, FISH, BIRD, SALT, DEER",
    "2FC6 KANGXI RADICAL: WHEAT, HEMP, YELLOW, MILLET, BLACK, EMBROIDERY, FROG, TRIPOD, DRUM, RAT, NOSE, EVEN",
    "2FD2 KANGXI RADICAL: TOOTH, DRAGON, TURTLE, FLUTE",
    "2FF0 IDEOGRAPHIC DESCRIPTION CHARACTER: LEFT TO RIGHT, ABOVE TO BELOW, LEFT TO MIDDLE AND RIGHT",
    "2FF3 IDEOGRAPHIC DESCRIPTION CHARACTER: ABOVE TO MIDDLE AND BELOW, FULL SURROUND, SURROUND FROM ABOVE",
    "2FF6 IDEOGRAPHIC DESCRIPTION CHARACTER: SURROUND FROM BELOW, SURROUND FROM LEFT",
    "2FF8 IDEOGRAPHIC DESCRIPTION CHARACTER: SURROUND FROM UPPER LEFT, SURROUND FROM UPPER RIGHT",
    "2FFA IDEOGRAPHIC DESCRIPTION CHARACTER: SURROUND FROM LOWER LEFT, OVERLAID"]

end WireBridge.Text
