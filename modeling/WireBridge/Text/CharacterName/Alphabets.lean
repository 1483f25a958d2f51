/-!
# Names of characters: alphabets

Data of Unicode 14, in the rows that `Text.CharacterName` explains.
-/

set_option autoImplicit false

namespace WireBridge.Text

/-- From the basic letters to the scripts of South Asia. -/
def alphabetNames : List String :=
  [
    "20: SPACE, EXCLAMATION MARK, QUOTATION MARK, NUMBER SIGN, DOLLAR SIGN, PERCENT SIGN, AMPERSAND",
    "27: APOSTROPHE, LEFT PARENTHESIS, RIGHT PARENTHESIS, ASTERISK, PLUS SIGN, COMMA, HYPHEN-MINUS, FULL STOP",
    "2F: SOLIDUS; 30 DIGIT: ZERO, ONE, TWO, THREE, FOUR, FIVE, SIX, SEVEN, EIGHT, NINE",
    "3A: COLON, SEMICOLON, LESS-THAN SIGN, EQUALS SIGN, GREATER-THAN SIGN, QUESTION MARK, COMMERCIAL AT",
    "41 LATIN CAPITAL LETTER: A, B, C, D, E, F, G, H, I, J, K, L, M, N, O, P, Q, R, S, T, U, V, W, X, Y, Z",
    "5B: LEFT SQUARE BRACKET, REVERSE SOLIDUS, RIGHT SQUARE BRACKET, CIRCUMFLEX ACCENT, LOW LINE",
    "60: GRAVE ACCENT",
    "61 LATIN SMALL LETTER: A, B, C, D, E, F, G, H, I, J, K, L, M, N, O, P, Q, R, S, T, U, V, W, X, Y, Z",
    "7B: LEFT CURLY BRACKET, VERTICAL LINE, RIGHT CURLY BRACKET, TILDE",
    "A0: NO-BREAK SPACE, INVERTED EXCLAMATION MARK, CENT SIGN, POUND SIGN, CURRENCY SIGN, YEN SIGN",
    "A6: BROKEN BAR, SECTION SIGN, DIAERESIS, COPYRIGHT SIGN, FEMININE ORDINAL INDICATOR",
    "AB: LEFT-POINTING DOUBLE ANGLE QUOTATION MARK, NOT SIGN, SOFT HYPHEN, REGISTERED SIGN, MACRON",
    "B0: DEGREE SIGN, PLUS-MINUS SIGN; B2 SUPERSCRIPT: TWO, THREE",
    "B4: ACUTE ACCENT, MICRO SIGN, PILCROW SIGN, MIDDLE DOT, CEDILLA, SUPERSCRIPT ONE",
    "BA: MASCULINE ORDINAL INDICATOR, RIGHT-POINTING DOUBLE ANGLE QUOTATION MARK",
    "BC VULGAR FRACTION: ONE QUARTER, ONE HALF, THREE QUARTERS; BF INVERTED QUESTION: MARK",
    "C0 LATIN CAPITAL LETTER A WITH: GRAVE, ACUTE, CIRCUMFLEX, TILDE, DIAERESIS, RING ABOVE",
    "C6 LATIN CAPITAL LETTER: AE, C WITH CEDILLA, E WITH GRAVE, E WITH ACUTE, E WITH CIRCUMFLEX",
    "CB LATIN CAPITAL LETTER: E WITH DIAERESIS, I WITH GRAVE, I WITH ACUTE, I WITH CIRCUMFLEX",
    "CF LATIN CAPITAL LETTER: I WITH DIAERESIS, ETH, N WITH TILDE",
    "D2 LATIN CAPITAL LETTER O WITH: GRAVE, ACUTE, CIRCUMFLEX, TILDE, DIAERESIS; D7 MULTIPLICATION: SIGN",
    "D8 LATIN CAPITAL LETTER: O WITH STROKE, U WITH GRAVE, U WITH ACUTE, U WITH CIRCUMFLEX, U WITH DIAERESIS",
    "DD LATIN CAPITAL LETTER: Y WITH ACUTE, THORN",
    "DF LATIN SMALL LETTER: SHARP S, A WITH GRAVE, A WITH ACUTE, A WITH CIRCUMFLEX, A WITH TILDE",
    "E4 LATIN SMALL LETTER: A WITH DIAERESIS, A WITH RING ABOVE, AE, C WITH CEDILLA, E WITH GRAVE",
    "E9 LATIN SMALL LETTER: E WITH ACUTE, E WITH CIRCUMFLEX, E WITH DIAERESIS, I WITH GRAVE, I WITH ACUTE",
    "EE LATIN SMALL LETTER: I WITH CIRCUMFLEX, I WITH DIAERESIS, ETH, N WITH TILDE",
    "F2 LATIN SMALL LETTER O WITH: GRAVE, ACUTE, CIRCUMFLEX, TILDE, DIAERESIS; F7 DIVISION: SIGN",
    "F8 LATIN SMALL LETTER: O WITH STROKE, U WITH GRAVE, U WITH ACUTE, U WITH CIRCUMFLEX, U WITH DIAERESIS",
    "FD LATIN SMALL LETTER: Y WITH ACUTE, THORN, Y WITH DIAERESIS",
    "100 LATIN: CAPITAL LETTER A WITH MACRON, SMALL LETTER A WITH MACRON, CAPITAL LETTER A WITH BREVE",
    "103 LATIN: SMALL LETTER A WITH BREVE, CAPITAL LETTER A WITH OGONEK, SMALL LETTER A WITH OGONEK",
    "106 LATIN: CAPITAL LETTER C WITH ACUTE, SMALL LETTER C WITH ACUTE, CAPITAL LETTER C WITH CIRCUMFLEX",
    "109 LATIN: SMALL LETTER C WITH CIRCUMFLEX, CAPITAL LETTER C WITH DOT ABOVE",
    "10B LATIN: SMALL LETTER C WITH DOT ABOVE, CAPITAL LETTER C WITH CARON, SMALL LETTER C WITH CARON",
    "10E LATIN: CAPITAL LETTER D WITH CARON, SMALL LETTER D WITH CARON, CAPITAL LETTER D WITH STROKE",
    "111 LATIN: SMALL LETTER D WITH STROKE, CAPITAL LETTER E WITH MACRON, SMALL LETTER E WITH MACRON",
    "114 LATIN: CAPITAL LETTER E WITH BREVE, SMALL LETTER E WITH BREVE, CAPITAL LETTER E WITH DOT ABOVE",
    "117 LATIN: SMALL LETTER E WITH DOT ABOVE, CAPITAL LETTER E WITH OGONEK, SMALL LETTER E WITH OGONEK",
    "11A LATIN: CAPITAL LETTER E WITH CARON, SMALL LETTER E WITH CARON, CAPITAL LETTER G WITH CIRCUMFLEX",
    "11D LATIN: SMALL LETTER G WITH CIRCUMFLEX, CAPITAL LETTER G WITH BREVE, SMALL LETTER G WITH BREVE",
    "120 LATIN: CAPITAL LETTER G WITH DOT ABOVE, SMALL LETTER G WITH DOT ABOVE, CAPITAL LETTER G WITH CEDILLA",
    "123 LATIN: SMALL LETTER G WITH CEDILLA, CAPITAL LETTER H WITH CIRCUMFLEX, SMALL LETTER H WITH CIRCUMFLEX",
    "126 LATIN: CAPITAL LETTER H WITH STROKE, SMALL LETTER H WITH STROKE, CAPITAL LETTER I WITH TILDE",
    "129 LATIN: SMALL LETTER I WITH TILDE, CAPITAL LETTER I WITH MACRON, SMALL LETTER I WITH MACRON",
    "12C LATIN: CAPITAL LETTER I WITH BREVE, SMALL LETTER I WITH BREVE, CAPITAL LETTER I WITH OGONEK",
    "12F LATIN: SMALL LETTER I WITH OGONEK, CAPITAL LETTER I WITH DOT ABOVE, SMALL LETTER DOTLESS I",
    "132 LATIN: CAPITAL LIGATURE IJ, SMALL LIGATURE IJ, CAPITAL LETTER J WITH CIRCUMFLEX",
    "135 LATIN: SMALL LETTER J WITH CIRCUMFLEX, CAPITAL LETTER K WITH CEDILLA, SMALL LETTER K WITH CEDILLA",
    "138 LATIN: SMALL LETTER KRA, CAPITAL LETTER L WITH ACUTE, SMALL LETTER L WITH ACUTE",
    "13B LATIN: CAPITAL LETTER L WITH CEDILLA, SMALL LETTER L WITH CEDILLA, CAPITAL LETTER L WITH CARON",
    "13E LATIN: SMALL LETTER L WITH CARON, CAPITAL LETTER L WITH MIDDLE DOT, SMALL LETTER L WITH MIDDLE DOT",
    "141 LATIN: CAPITAL LETTER L WITH STROKE, SMALL LETTER L WITH STROKE, CAPITAL LETTER N WITH ACUTE",
    "144 LATIN: SMALL LETTER N WITH ACUTE, CAPITAL LETTER N WITH CEDILLA, SMALL LETTER N WITH CEDILLA",
    "147 LATIN: CAPITAL LETTER N WITH CARON, SMALL LETTER N WITH CARON, SMALL LETTER N PRECEDED BY APOSTROPHE",
    "14A LATIN: CAPITAL LETTER ENG, SMALL LETTER ENG, CAPITAL LETTER O WITH MACRON",
    "14D LATIN: SMALL LETTER O WITH MACRON, CAPITAL LETTER O WITH BREVE, SMALL LETTER O WITH BREVE",
    "150 LATIN: CAPITAL LETTER O WITH DOUBLE ACUTE, SMALL LETTER O WITH DOUBLE ACUTE, CAPITAL LIGATURE OE",
    "153 LATIN: SMALL LIGATURE OE, CAPITAL LETTER R WITH ACUTE, SMALL LETTER R WITH ACUTE",
    "156 LATIN: CAPITAL LETTER R WITH CEDILLA, SMALL LETTER R WITH CEDILLA, CAPITAL LETTER R WITH CARON",
    "159 LATIN: SMALL LETTER R WITH CARON, CAPITAL LETTER S WITH ACUTE, SMALL LETTER S WITH ACUTE",
    "15C LATIN: CAPITAL LETTER S WITH CIRCUMFLEX, SMALL LETTER S WITH CIRCUMFLEX",
    "15E LATIN: CAPITAL LETTER S WITH CEDILLA, SMALL LETTER S WITH CEDILLA, CAPITAL LETTER S WITH CARON",
    "161 LATIN: SMALL LETTER S WITH CARON, CAPITAL LETTER T WITH CEDILLA, SMALL LETTER T WITH CEDILLA",
    "164 LATIN: CAPITAL LETTER T WITH CARON, SMALL LETTER T WITH CARON, CAPITAL LETTER T WITH STROKE",
    "167 LATIN: SMALL LETTER T WITH STROKE, CAPITAL LETTER U WITH TILDE, SMALL LETTER U WITH TILDE",
    "16A LATIN: CAPITAL LETTER U WITH MACRON, SMALL LETTER U WITH MACRON, CAPITAL LETTER U WITH BREVE",
    "16D LATIN: SMALL LETTER U WITH BREVE, CAPITAL LETTER U WITH RING ABOVE, SMALL LETTER U WITH RING ABOVE",
    "170 LATIN: CAPITAL LETTER U WITH DOUBLE ACUTE, SMALL LETTER U WITH DOUBLE ACUTE",
    "172 LATIN: CAPITAL LETTER U WITH OGONEK, SMALL LETTER U WITH OGONEK, CAPITAL LETTER W WITH CIRCUMFLEX",
    "175 LATIN: SMALL LETTER W WITH CIRCUMFLEX, CAPITAL LETTER Y WITH CIRCUMFLEX",
    "177 LATIN: SMALL LETTER Y WITH CIRCUMFLEX, CAPITAL LETTER Y WITH DIAERESIS, CAPITAL LETTER Z WITH ACUTE",
    "17A LATIN: SMALL LETTER Z WITH ACUTE, CAPITAL LETTER Z WITH DOT ABOVE, SMALL LETTER Z WITH DOT ABOVE",
    "17D LATIN: CAPITAL LETTER Z WITH CARON; 17E LATIN SMALL LETTER: Z WITH CARON, LONG S, B WITH STROKE",
    "181 LATIN CAPITAL LETTER B WITH: HOOK, TOPBAR",
    "183 LATIN: SMALL LETTER B WITH TOPBAR, CAPITAL LETTER TONE SIX, SMALL LETTER TONE SIX",
    "186 LATIN: CAPITAL LETTER OPEN O, CAPITAL LETTER C WITH HOOK, SMALL LETTER C WITH HOOK",
    "189 LATIN CAPITAL LETTER: AFRICAN D, D WITH HOOK, D WITH TOPBAR",
    "18C LATIN SMALL LETTER: D WITH TOPBAR, TURNED DELTA",
    "18E LATIN CAPITAL LETTER: REVERSED E, SCHWA, OPEN E, F WITH HOOK",
    "192 LATIN: SMALL LETTER F WITH HOOK, CAPITAL LETTER G WITH HOOK, CAPITAL LETTER GAMMA, SMALL LETTER HV",
    "196 LATIN CAPITAL LETTER: IOTA, I WITH STROKE, K WITH HOOK",
    "199 LATIN SMALL LETTER: K WITH HOOK, L WITH BAR, LAMBDA WITH STROKE",
    "19C LATIN CAPITAL LETTER: TURNED M, N WITH LEFT HOOK",
    "19E LATIN: SMALL LETTER N WITH LONG RIGHT LEG, CAPITAL LETTER O WITH MIDDLE TILDE",
    "1A0 LATIN: CAPITAL LETTER O WITH HORN, SMALL LETTER O WITH HORN, CAPITAL LETTER OI, SMALL LETTER OI",
    "1A4 LATIN: CAPITAL LETTER P WITH HOOK, SMALL LETTER P WITH HOOK, LETTER YR, CAPITAL LETTER TONE TWO",
    "1A8 LATIN: SMALL LETTER TONE TWO, CAPITAL LETTER ESH, LETTER REVERSED ESH LOOP",
    "1AB LATIN: SMALL LETTER T WITH PALATAL HOOK, CAPITAL LETTER T WITH HOOK, SMALL LETTER T WITH HOOK",
    "1AE LATIN: CAPITAL LETTER T WITH RETROFLEX HOOK, CAPITAL LETTER U WITH HORN, SMALL LETTER U WITH HORN",
    "1B1 LATIN CAPITAL LETTER: UPSILON, V WITH HOOK, Y WITH HOOK",
    "1B4 LATIN: SMALL LETTER Y WITH HOOK, CAPITAL LETTER Z WITH STROKE, SMALL LETTER Z WITH STROKE",
    "1B7 LATIN: CAPITAL LETTER EZH, CAPITAL LETTER EZH REVERSED, SMALL LETTER EZH REVERSED",
    "1BA LATIN: SMALL LETTER EZH WITH TAIL, LETTER TWO WITH STROKE, CAPITAL LETTER TONE FIVE",
    "1BD LATIN: SMALL LETTER TONE FIVE",
    "1BE LATIN LETTER: INVERTED GLOTTAL STOP WITH STROKE, WYNN, DENTAL CLICK, LATERAL CLICK, ALVEOLAR CLICK",
    "1C3 LATIN LETTER: RETROFLEX CLICK",
    "1C4 LATIN CAPITAL LETTER: DZ WITH CARON, D WITH SMALL LETTER Z WITH CARON",
    "1C6 LATIN: SMALL LETTER DZ WITH CARON, CAPITAL LETTER LJ, CAPITAL LETTER L WITH SMALL LETTER J",
    "1C9 LATIN: SMALL LETTER LJ, CAPITAL LETTER NJ, CAPITAL LETTER N WITH SMALL LETTER J, SMALL LETTER NJ",
    "1CD LATIN: CAPITAL LETTER A WITH CARON, SMALL LETTER A WITH CARON, CAPITAL LETTER I WITH CARON",
    "1D0 LATIN: SMALL LETTER I WITH CARON, CAPITAL LETTER O WITH CARON, SMALL LETTER O WITH CARON",
    "1D3 LATIN: CAPITAL LETTER U WITH CARON, SMALL LETTER U WITH CARON",
    "1D5 LATIN: CAPITAL LETTER U WITH DIAERESIS AND MACRON, SMALL LETTER U WITH DIAERESIS AND MACRON",
    "1D7 LATIN: CAPITAL LETTER U WITH DIAERESIS AND ACUTE, SMALL LETTER U WITH DIAERESIS AND ACUTE",
    "1D9 LATIN: CAPITAL LETTER U WITH DIAERESIS AND CARON, SMALL LETTER U WITH DIAERESIS AND CARON",
    "1DB LATIN: CAPITAL LETTER U WITH DIAERESIS AND GRAVE, SMALL LETTER U WITH DIAERESIS AND GRAVE",
    "1DD LATIN: SMALL LETTER TURNED E, CAPITAL LETTER A WITH DIAERESIS AND MACRON",
    "1DF LATIN: SMALL LETTER A WITH DIAERESIS AND MACRON, CAPITAL LETTER A WITH DOT ABOVE AND MACRON",
    "1E1 LATIN: SMALL LETTER A WITH DOT ABOVE AND MACRON, CAPITAL LETTER AE WITH MACRON",
    "1E3 LATIN: SMALL LETTER AE WITH MACRON, CAPITAL LETTER G WITH STROKE, SMALL LETTER G WITH STROKE",
    "1E6 LATIN: CAPITAL LETTER G WITH CARON, SMALL LETTER G WITH CARON, CAPITAL LETTER K WITH CARON",
    "1E9 LATIN: SMALL LETTER K WITH CARON, CAPITAL LETTER O WITH OGONEK, SMALL LETTER O WITH OGONEK",
    "1EC LATIN: CAPITAL LETTER O WITH OGONEK AND MACRON, SMALL LETTER O WITH OGONEK AND MACRON",
    "1EE LATIN: CAPITAL LETTER EZH WITH CARON, SMALL LETTER EZH WITH CARON, SMALL LETTER J WITH CARON",
    "1F1 LATIN: CAPITAL LETTER DZ, CAPITAL LETTER D WITH SMALL LETTER Z, SMALL LETTER DZ",
    "1F4 LATIN: CAPITAL LETTER G WITH ACUTE, SMALL LETTER G WITH ACUTE",
    "1F6 LATIN CAPITAL LETTER: HWAIR, WYNN, N WITH GRAVE",
    "1F9 LATIN: SMALL LETTER N WITH GRAVE, CAPITAL LETTER A WITH RING ABOVE AND ACUTE",
    "1FB LATIN: SMALL LETTER A WITH RING ABOVE AND ACUTE, CAPITAL LETTER AE WITH ACUTE",
    "1FD LATIN: SMALL LETTER AE WITH ACUTE, CAPITAL LETTER O WITH STROKE AND ACUTE",
    "1FF LATIN: SMALL LETTER O WITH STROKE AND ACUTE, CAPITAL LETTER A WITH DOUBLE GRAVE",
    "201 LATIN: SMALL LETTER A WITH DOUBLE GRAVE, CAPITAL LETTER A WITH INVERTED BREVE",
    "203 LATIN: SMALL LETTER A WITH INVERTED BREVE, CAPITAL LETTER E WITH DOUBLE GRAVE",
    "205 LATIN: SMALL LETTER E WITH DOUBLE GRAVE, CAPITAL LETTER E WITH INVERTED BREVE",
    "207 LATIN: SMALL LETTER E WITH INVERTED BREVE, CAPITAL LETTER I WITH DOUBLE GRAVE",
    "209 LATIN: SMALL LETTER I WITH DOUBLE GRAVE, CAPITAL LETTER I WITH INVERTED BREVE",
    "20B LATIN: SMALL LETTER I WITH INVERTED BREVE, CAPITAL LETTER O WITH DOUBLE GRAVE",
    "20D LATIN: SMALL LETTER O WITH DOUBLE GRAVE, CAPITAL LETTER O WITH INVERTED BREVE",
    "20F LATIN: SMALL LETTER O WITH INVERTED BREVE, CAPITAL LETTER R WITH DOUBLE GRAVE",
    "211 LATIN: SMALL LETTER R WITH DOUBLE GRAVE, CAPITAL LETTER R WITH INVERTED BREVE",
    "213 LATIN: SMALL LETTER R WITH INVERTED BREVE, CAPITAL LETTER U WITH DOUBLE GRAVE",
    "215 LATIN: SMALL LETTER U WITH DOUBLE GRAVE, CAPITAL LETTER U WITH INVERTED BREVE",
    "217 LATIN: SMALL LETTER U WITH INVERTED BREVE, CAPITAL LETTER S WITH COMMA BELOW",
    "219 LATIN: SMALL LETTER S WITH COMMA BELOW, CAPITAL LETTER T WITH COMMA BELOW",
    "21B LATIN: SMALL LETTER T WITH COMMA BELOW, CAPITAL LETTER YOGH, SMALL LETTER YOGH",
    "21E LATIN: CAPITAL LETTER H WITH CARON, SMALL LETTER H WITH CARON, CAPITAL LETTER N WITH LONG RIGHT LEG",
    "221 LATIN: SMALL LETTER D WITH CURL, CAPITAL LETTER OU, SMALL LETTER OU, CAPITAL LETTER Z WITH HOOK",
    "225 LATIN: SMALL LETTER Z WITH HOOK, CAPITAL LETTER A WITH DOT ABOVE, SMALL LETTER A WITH DOT ABOVE",
    "228 LATIN: CAPITAL LETTER E WITH CEDILLA, SMALL LETTER E WITH CEDILLA",
    "22A LATIN: CAPITAL LETTER O WITH DIAERESIS AND MACRON, SMALL LETTER O WITH DIAERESIS AND MACRON",
    "22C LATIN: CAPITAL LETTER O WITH TILDE AND MACRON, SMALL LETTER O WITH TILDE AND MACRON",
    "22E LATIN: CAPITAL LETTER O WITH DOT ABOVE, SMALL LETTER O WITH DOT ABOVE",
    "230 LATIN: CAPITAL LETTER O WITH DOT ABOVE AND MACRON, SMALL LETTER O WITH DOT ABOVE AND MACRON",
    "232 LATIN: CAPITAL LETTER Y WITH MACRON",
    "233 LATIN SMALL LETTER: Y WITH MACRON, L WITH CURL, N WITH CURL, T WITH CURL, DOTLESS J, DB DIGRAPH",
    "239 LATIN SMALL LETTER: QP DIGRAPH; 23A LATIN CAPITAL LETTER: A WITH STROKE, C WITH STROKE",
    "23C LATIN: SMALL LETTER C WITH STROKE, CAPITAL LETTER L WITH BAR, CAPITAL LETTER T WITH DIAGONAL STROKE",
    "23F LATIN: SMALL LETTER S WITH SWASH TAIL, SMALL LETTER Z WITH SWASH TAIL, CAPITAL LETTER GLOTTAL STOP",
    "242 LATIN: SMALL LETTER GLOTTAL STOP",
    "243 LATIN CAPITAL LETTER: B WITH STROKE, U BAR, TURNED V, E WITH STROKE",
    "247 LATIN: SMALL LETTER E WITH STROKE, CAPITAL LETTER J WITH STROKE, SMALL LETTER J WITH STROKE",
    "24A LATIN: CAPITAL LETTER SMALL Q WITH HOOK TAIL, SMALL LETTER Q WITH HOOK TAIL",
    "24C LATIN: CAPITAL LETTER R WITH STROKE, SMALL LETTER R WITH STROKE, CAPITAL LETTER Y WITH STROKE",
    "24F LATIN SMALL LETTER: Y WITH STROKE, TURNED A, ALPHA, TURNED ALPHA, B WITH HOOK, OPEN O, C WITH CURL",
    "256 LATIN SMALL LETTER: D WITH TAIL, D WITH HOOK, REVERSED E, SCHWA, SCHWA WITH HOOK, OPEN E",
    "25C LATIN SMALL LETTER: REVERSED OPEN E, REVERSED OPEN E WITH HOOK, CLOSED REVERSED OPEN E",
    "25F LATIN SMALL LETTER: DOTLESS J WITH STROKE, G WITH HOOK, SCRIPT G; 262 LATIN LETTER SMALL CAPITAL: G",
    "263 LATIN SMALL LETTER: GAMMA, RAMS HORN, TURNED H, H WITH HOOK, HENG WITH HOOK, I WITH STROKE, IOTA",
    "26A LATIN LETTER SMALL CAPITAL: I",
    "26B LATIN SMALL LETTER: L WITH MIDDLE TILDE, L WITH BELT, L WITH RETROFLEX HOOK, LEZH, TURNED M",
    "270 LATIN SMALL LETTER: TURNED M WITH LONG LEG, M WITH HOOK, N WITH LEFT HOOK, N WITH RETROFLEX HOOK",
    "274 LATIN: LETTER SMALL CAPITAL N, SMALL LETTER BARRED O, LETTER SMALL CAPITAL OE",
    "277 LATIN SMALL LETTER: CLOSED OMEGA, PHI, TURNED R, TURNED R WITH LONG LEG, TURNED R WITH HOOK",
    "27C LATIN SMALL LETTER: R WITH LONG LEG, R WITH TAIL, R WITH FISHHOOK, REVERSED R WITH FISHHOOK",
    "280 LATIN LETTER SMALL CAPITAL: R, INVERTED R",
    "282 LATIN SMALL LETTER: S WITH HOOK, ESH, DOTLESS J WITH STROKE AND HOOK, SQUAT REVERSED ESH",
    "286 LATIN SMALL LETTER: ESH WITH CURL, TURNED T, T WITH RETROFLEX HOOK, U BAR, UPSILON, V WITH HOOK",
    "28C LATIN SMALL LETTER: TURNED V, TURNED W, TURNED Y; 28F LATIN LETTER SMALL CAPITAL: Y",
    "290 LATIN SMALL LETTER: Z WITH RETROFLEX HOOK, Z WITH CURL, EZH, EZH WITH CURL",
    "294 LATIN LETTER: GLOTTAL STOP, PHARYNGEAL VOICED FRICATIVE, INVERTED GLOTTAL STOP, STRETCHED C",
    "298 LATIN LETTER: BILABIAL CLICK, SMALL CAPITAL B; 29A LATIN SMALL LETTER CLOSED OPEN: E",
    "29B LATIN LETTER SMALL CAPITAL: G WITH HOOK, H; 29D LATIN SMALL LETTER: J WITH CROSSED-TAIL, TURNED K",
    "29F LATIN: LETTER SMALL CAPITAL L, SMALL LETTER Q WITH HOOK, LETTER GLOTTAL STOP WITH STROKE",
    "2A2 LATIN: LETTER REVERSED GLOTTAL STOP WITH STROKE",
    "2A3 LATIN SMALL LETTER: DZ DIGRAPH, DEZH DIGRAPH, DZ DIGRAPH WITH CURL, TS DIGRAPH, TESH DIGRAPH",
    "2A8 LATIN SMALL LETTER: TC DIGRAPH WITH CURL, FENG DIGRAPH, LS DIGRAPH, LZ DIGRAPH",
    "2AC LATIN LETTER: BILABIAL PERCUSSIVE, BIDENTAL PERCUSSIVE",
    "2AE LATIN SMALL LETTER TURNED H WITH: FISHHOOK, FISHHOOK AND TAIL",
    "2B0 MODIFIER LETTER SMALL: H, H WITH HOOK, J, R, TURNED R, TURNED R WITH HOOK, CAPITAL INVERTED R, W, Y",
    "2B9 MODIFIER LETTER: PRIME, DOUBLE PRIME, TURNED COMMA, APOSTROPHE, REVERSED COMMA, RIGHT HALF RING",
    "2BF MODIFIER LETTER: LEFT HALF RING, GLOTTAL STOP, REVERSED GLOTTAL STOP, LEFT ARROWHEAD",
    "2C3 MODIFIER LETTER: RIGHT ARROWHEAD, UP ARROWHEAD, DOWN ARROWHEAD, CIRCUMFLEX ACCENT; 2C7: CARON",
    "2C8 MODIFIER LETTER: VERTICAL LINE, MACRON, ACUTE ACCENT, GRAVE ACCENT, LOW VERTICAL LINE, LOW MACRON",
    "2CE MODIFIER LETTER: LOW GRAVE ACCENT, LOW ACUTE ACCENT, TRIANGULAR COLON, HALF TRIANGULAR COLON",
    "2D2 MODIFIER LETTER: CENTRED RIGHT HALF RING, CENTRED LEFT HALF RING, UP TACK, DOWN TACK, PLUS SIGN",
    "2D7 MODIFIER LETTER: MINUS SIGN",
    "2D8: BREVE, DOT ABOVE, RING ABOVE, OGONEK, SMALL TILDE, DOUBLE ACUTE ACCENT",
    "2DE MODIFIER LETTER: RHOTIC HOOK, CROSS ACCENT, SMALL GAMMA, SMALL L, SMALL S, SMALL X",
    "2E4 MODIFIER LETTER: SMALL REVERSED GLOTTAL STOP, EXTRA-HIGH TONE BAR, HIGH TONE BAR, MID TONE BAR",
    "2E8 MODIFIER LETTER: LOW TONE BAR, EXTRA-LOW TONE BAR, YIN DEPARTING TONE MARK, YANG DEPARTING TONE MARK",
    "2EC MODIFIER LETTER: VOICING, UNASPIRATED, DOUBLE APOSTROPHE, LOW DOWN ARROWHEAD, LOW UP ARROWHEAD",
    "2F1 MODIFIER LETTER: LOW LEFT ARROWHEAD, LOW RIGHT ARROWHEAD, LOW RING, MIDDLE GRAVE ACCENT",
    "2F5 MODIFIER LETTER: MIDDLE DOUBLE GRAVE ACCENT, MIDDLE DOUBLE ACUTE ACCENT, LOW TILDE, RAISED COLON",
    "2F9 MODIFIER LETTER: BEGIN HIGH TONE, END HIGH TONE, BEGIN LOW TONE, END LOW TONE, SHELF, OPEN SHELF",
    "2FF MODIFIER LETTER: LOW LEFT ARROW",
    "300 COMBINING: GRAVE ACCENT, ACUTE ACCENT, CIRCUMFLEX ACCENT, TILDE, MACRON, OVERLINE, BREVE, DOT ABOVE",
    "308 COMBINING: DIAERESIS, HOOK ABOVE, RING ABOVE, DOUBLE ACUTE ACCENT, CARON, VERTICAL LINE ABOVE",
    "30E COMBINING: DOUBLE VERTICAL LINE ABOVE, DOUBLE GRAVE ACCENT, CANDRABINDU, INVERTED BREVE",
    "312 COMBINING: TURNED COMMA ABOVE, COMMA ABOVE, REVERSED COMMA ABOVE, COMMA ABOVE RIGHT",
    "316 COMBINING: GRAVE ACCENT BELOW, ACUTE ACCENT BELOW, LEFT TACK BELOW, RIGHT TACK BELOW",
    "31A COMBINING: LEFT ANGLE ABOVE, HORN, LEFT HALF RING BELOW, UP TACK BELOW, DOWN TACK BELOW",
    "31F COMBINING: PLUS SIGN BELOW, MINUS SIGN BELOW, PALATALIZED HOOK BELOW, RETROFLEX HOOK BELOW",
    "323 COMBINING: DOT BELOW, DIAERESIS BELOW, RING BELOW, COMMA BELOW, CEDILLA, OGONEK, VERTICAL LINE BELOW",
    "32A COMBINING: BRIDGE BELOW, INVERTED DOUBLE ARCH BELOW, CARON BELOW, CIRCUMFLEX ACCENT BELOW",
    "32E COMBINING: BREVE BELOW, INVERTED BREVE BELOW, TILDE BELOW, MACRON BELOW, LOW LINE, DOUBLE LOW LINE",
    "334 COMBINING: TILDE OVERLAY, SHORT STROKE OVERLAY, LONG STROKE OVERLAY, SHORT SOLIDUS OVERLAY",
    "338 COMBINING: LONG SOLIDUS OVERLAY, RIGHT HALF RING BELOW, INVERTED BRIDGE BELOW, SQUARE BELOW",
    "33C COMBINING: SEAGULL BELOW, X ABOVE, VERTICAL TILDE, DOUBLE OVERLINE, GRAVE TONE MARK, ACUTE TONE MARK",
    "342 COMBINING: GREEK PERISPOMENI, GREEK KORONIS, GREEK DIALYTIKA TONOS, GREEK YPOGEGRAMMENI",
    "346 COMBINING: BRIDGE ABOVE, EQUALS SIGN BELOW, DOUBLE VERTICAL LINE BELOW, LEFT ANGLE BELOW",
    "34A COMBINING: NOT TILDE ABOVE, HOMOTHETIC ABOVE, ALMOST EQUAL TO ABOVE, LEFT RIGHT ARROW BELOW",
    "34E COMBINING: UPWARDS ARROW BELOW, GRAPHEME JOINER, RIGHT ARROWHEAD ABOVE, LEFT HALF RING ABOVE",
    "352 COMBINING: FERMATA, X BELOW, LEFT ARROWHEAD BELOW, RIGHT ARROWHEAD BELOW",
    "356 COMBINING: RIGHT ARROWHEAD AND UP ARROWHEAD BELOW, RIGHT HALF RING ABOVE, DOT ABOVE RIGHT",
    "359 COMBINING: ASTERISK BELOW, DOUBLE RING BELOW, ZIGZAG ABOVE",
    "35C COMBINING DOUBLE: BREVE BELOW, BREVE, MACRON, MACRON BELOW, TILDE, INVERTED BREVE",
    "362 COMBINING DOUBLE: RIGHTWARDS ARROW BELOW",
    "363 COMBINING LATIN SMALL LETTER: A, E, I, O, U, C, D, H, M, R, T, V, X",
    "370 GREEK: CAPITAL LETTER HETA, SMALL LETTER HETA, CAPITAL LETTER ARCHAIC SAMPI",
    "373 GREEK: SMALL LETTER ARCHAIC SAMPI, NUMERAL SIGN, LOWER NUMERAL SIGN",
    "376 GREEK: CAPITAL LETTER PAMPHYLIAN DIGAMMA, SMALL LETTER PAMPHYLIAN DIGAMMA",
    "37A GREEK: YPOGEGRAMMENI, SMALL REVERSED LUNATE SIGMA SYMBOL, SMALL DOTTED LUNATE SIGMA SYMBOL",
    "37D GREEK: SMALL REVERSED DOTTED LUNATE SIGMA SYMBOL, QUESTION MARK, CAPITAL LETTER YOT",
    "384 GREEK: TONOS, DIALYTIKA TONOS, CAPITAL LETTER ALPHA WITH TONOS, ANO TELEIA",
    "388 GREEK CAPITAL LETTER: EPSILON WITH TONOS, ETA WITH TONOS, IOTA WITH TONOS",
    "38C GREEK CAPITAL LETTER OMICRON WITH: TONOS",
    "38E GREEK CAPITAL LETTER: UPSILON WITH TONOS, OMEGA WITH TONOS",
    "390 GREEK SMALL LETTER IOTA WITH DIALYTIKA AND: TONOS",
    "391 GREEK CAPITAL LETTER: ALPHA, BETA, GAMMA, DELTA, EPSILON, ZETA, ETA, THETA, IOTA, KAPPA, LAMDA, MU",
    "39D GREEK CAPITAL LETTER: NU, XI, OMICRON, PI, RHO",
    "3A3 GREEK CAPITAL LETTER: SIGMA, TAU, UPSILON, PHI, CHI, PSI, OMEGA, IOTA WITH DIALYTIKA",
    "3AB GREEK CAPITAL LETTER: UPSILON WITH DIALYTIKA",
    "3AC GREEK SMALL LETTER: ALPHA WITH TONOS, EPSILON WITH TONOS, ETA WITH TONOS, IOTA WITH TONOS",
    "3B0 GREEK SMALL LETTER: UPSILON WITH DIALYTIKA AND TONOS, ALPHA, BETA, GAMMA, DELTA, EPSILON, ZETA, ETA",
    "3B8 GREEK SMALL LETTER: THETA, IOTA, KAPPA, LAMDA, MU, NU, XI, OMICRON, PI, RHO, FINAL SIGMA, SIGMA, TAU",
    "3C5 GREEK SMALL LETTER: UPSILON, PHI, CHI, PSI, OMEGA, IOTA WITH DIALYTIKA, UPSILON WITH DIALYTIKA",
    "3CC GREEK SMALL LETTER: OMICRON WITH TONOS, UPSILON WITH TONOS, OMEGA WITH TONOS",
    "3CF GREEK: CAPITAL KAI SYMBOL, BETA SYMBOL, THETA SYMBOL",
    "3D2 GREEK UPSILON WITH: HOOK SYMBOL, ACUTE AND HOOK SYMBOL, DIAERESIS AND HOOK SYMBOL",
    "3D5 GREEK: PHI SYMBOL, PI SYMBOL, KAI SYMBOL, LETTER ARCHAIC KOPPA, SMALL LETTER ARCHAIC KOPPA",
    "3DA GREEK: LETTER STIGMA, SMALL LETTER STIGMA, LETTER DIGAMMA, SMALL LETTER DIGAMMA, LETTER KOPPA",
    "3DF GREEK: SMALL LETTER KOPPA, LETTER SAMPI, SMALL LETTER SAMPI",
    "3E2 COPTIC: CAPITAL LETTER SHEI, SMALL LETTER SHEI, CAPITAL LETTER FEI, SMALL LETTER FEI",
    "3E6 COPTIC: CAPITAL LETTER KHEI, SMALL LETTER KHEI, CAPITAL LETTER HORI, SMALL LETTER HORI",
    "3EA COPTIC: CAPITAL LETTER GANGIA, SMALL LETTER GANGIA, CAPITAL LETTER SHIMA, SMALL LETTER SHIMA",
    "3EE COPTIC: CAPITAL LETTER DEI, SMALL LETTER DEI",
    "3F0 GREEK: KAPPA SYMBOL, RHO SYMBOL, LUNATE SIGMA SYMBOL, LETTER YOT, CAPITAL THETA SYMBOL",
    "3F5 GREEK: LUNATE EPSILON SYMBOL, REVERSED LUNATE EPSILON SYMBOL, CAPITAL LETTER SHO, SMALL LETTER SHO",
    "3F9 GREEK: CAPITAL LUNATE SIGMA SYMBOL, CAPITAL LETTER SAN, SMALL LETTER SAN, RHO WITH STROKE SYMBOL",
    "3FD GREEK CAPITAL: REVERSED LUNATE SIGMA SYMBOL, DOTTED LUNATE SIGMA SYMBOL",
    "3FF GREEK CAPITAL: REVERSED DOTTED LUNATE SIGMA SYMBOL",
    "400 CYRILLIC CAPITAL LETTER: IE WITH GRAVE, IO, DJE, GJE, UKRAINIAN IE, DZE, BYELORUSSIAN-UKRAINIAN I",
    "407 CYRILLIC CAPITAL LETTER: YI, JE, LJE, NJE, TSHE, KJE, I WITH GRAVE, SHORT U, DZHE, A, BE, VE, GHE",
    "414 CYRILLIC CAPITAL LETTER: DE, IE, ZHE, ZE, I, SHORT I, KA, EL, EM, EN, O, PE, ER, ES, TE, U, EF, HA",
    "426 CYRILLIC CAPITAL LETTER: TSE, CHE, SHA, SHCHA, HARD SIGN, YERU, SOFT SIGN, E, YU, YA",
    "430 CYRILLIC SMALL LETTER: A, BE, VE, GHE, DE, IE, ZHE, ZE, I, SHORT I, KA, EL, EM, EN, O, PE, ER, ES",
    "442 CYRILLIC SMALL LETTER: TE, U, EF, HA, TSE, CHE, SHA, SHCHA, HARD SIGN, YERU, SOFT SIGN, E, YU, YA",
    "450 CYRILLIC SMALL LETTER: IE WITH GRAVE, IO, DJE, GJE, UKRAINIAN IE, DZE, BYELORUSSIAN-UKRAINIAN I, YI",
    "458 CYRILLIC SMALL LETTER: JE, LJE, NJE, TSHE, KJE, I WITH GRAVE, SHORT U, DZHE",
    "460 CYRILLIC: CAPITAL LETTER OMEGA, SMALL LETTER OMEGA, CAPITAL LETTER YAT, SMALL LETTER YAT",
    "464 CYRILLIC: CAPITAL LETTER IOTIFIED E, SMALL LETTER IOTIFIED E, CAPITAL LETTER LITTLE YUS",
    "467 CYRILLIC: SMALL LETTER LITTLE YUS, CAPITAL LETTER IOTIFIED LITTLE YUS",
    "469 CYRILLIC: SMALL LETTER IOTIFIED LITTLE YUS, CAPITAL LETTER BIG YUS, SMALL LETTER BIG YUS",
    "46C CYRILLIC: CAPITAL LETTER IOTIFIED BIG YUS, SMALL LETTER IOTIFIED BIG YUS, CAPITAL LETTER KSI",
    "46F CYRILLIC: SMALL LETTER KSI, CAPITAL LETTER PSI, SMALL LETTER PSI, CAPITAL LETTER FITA",
    "473 CYRILLIC: SMALL LETTER FITA, CAPITAL LETTER IZHITSA, SMALL LETTER IZHITSA",
    "476 CYRILLIC: CAPITAL LETTER IZHITSA WITH DOUBLE GRAVE ACCENT",
    "477 CYRILLIC: SMALL LETTER IZHITSA WITH DOUBLE GRAVE ACCENT, CAPITAL LETTER UK, SMALL LETTER UK",
    "47A CYRILLIC: CAPITAL LETTER ROUND OMEGA, SMALL LETTER ROUND OMEGA, CAPITAL LETTER OMEGA WITH TITLO",
    "47D CYRILLIC: SMALL LETTER OMEGA WITH TITLO, CAPITAL LETTER OT, SMALL LETTER OT, CAPITAL LETTER KOPPA",
    "481 CYRILLIC: SMALL LETTER KOPPA, THOUSANDS SIGN",
    "483 COMBINING CYRILLIC: TITLO, PALATALIZATION, DASIA PNEUMATA, PSILI PNEUMATA, POKRYTIE",
    "488 COMBINING CYRILLIC: HUNDRED THOUSANDS SIGN, MILLIONS SIGN",
    "48A CYRILLIC: CAPITAL LETTER SHORT I WITH TAIL, SMALL LETTER SHORT I WITH TAIL",
    "48C CYRILLIC: CAPITAL LETTER SEMISOFT SIGN, SMALL LETTER SEMISOFT SIGN, CAPITAL LETTER ER WITH TICK",
    "48F CYRILLIC: SMALL LETTER ER WITH TICK, CAPITAL LETTER GHE WITH UPTURN, SMALL LETTER GHE WITH UPTURN",
    "492 CYRILLIC: CAPITAL LETTER GHE WITH STROKE, SMALL LETTER GHE WITH STROKE",
    "494 CYRILLIC: CAPITAL LETTER GHE WITH MIDDLE HOOK, SMALL LETTER GHE WITH MIDDLE HOOK",
    "496 CYRILLIC: CAPITAL LETTER ZHE WITH DESCENDER, SMALL LETTER ZHE WITH DESCENDER",
    "498 CYRILLIC: CAPITAL LETTER ZE WITH DESCENDER, SMALL LETTER ZE WITH DESCENDER",
    "49A CYRILLIC: CAPITAL LETTER KA WITH DESCENDER, SMALL LETTER KA WITH DESCENDER",
    "49C CYRILLIC: CAPITAL LETTER KA WITH VERTICAL STROKE, SMALL LETTER KA WITH VERTICAL STROKE",
    "49E CYRILLIC: CAPITAL LETTER KA WITH STROKE, SMALL LETTER KA WITH STROKE, CAPITAL LETTER BASHKIR KA",
    "4A1 CYRILLIC: SMALL LETTER BASHKIR KA, CAPITAL LETTER EN WITH DESCENDER, SMALL LETTER EN WITH DESCENDER",
    "4A4 CYRILLIC: CAPITAL LIGATURE EN GHE, SMALL LIGATURE EN GHE, CAPITAL LETTER PE WITH MIDDLE HOOK",
    "4A7 CYRILLIC: SMALL LETTER PE WITH MIDDLE HOOK, CAPITAL LETTER ABKHASIAN HA, SMALL LETTER ABKHASIAN HA",
    "4AA CYRILLIC: CAPITAL LETTER ES WITH DESCENDER, SMALL LETTER ES WITH DESCENDER",
    "4AC CYRILLIC: CAPITAL LETTER TE WITH DESCENDER, SMALL LETTER TE WITH DESCENDER",
    "4AE CYRILLIC: CAPITAL LETTER STRAIGHT U, SMALL LETTER STRAIGHT U, CAPITAL LETTER STRAIGHT U WITH STROKE",
    "4B1 CYRILLIC: SMALL LETTER STRAIGHT U WITH STROKE, CAPITAL LETTER HA WITH DESCENDER",
    "4B3 CYRILLIC: SMALL LETTER HA WITH DESCENDER, CAPITAL LIGATURE TE TSE, SMALL LIGATURE TE TSE",
    "4B6 CYRILLIC: CAPITAL LETTER CHE WITH DESCENDER, SMALL LETTER CHE WITH DESCENDER",
    "4B8 CYRILLIC: CAPITAL LETTER CHE WITH VERTICAL STROKE, SMALL LETTER CHE WITH VERTICAL STROKE",
    "4BA CYRILLIC: CAPITAL LETTER SHHA, SMALL LETTER SHHA, CAPITAL LETTER ABKHASIAN CHE",
    "4BD CYRILLIC: SMALL LETTER ABKHASIAN CHE, CAPITAL LETTER ABKHASIAN CHE WITH DESCENDER",
    "4BF CYRILLIC: SMALL LETTER ABKHASIAN CHE WITH DESCENDER, LETTER PALOCHKA, CAPITAL LETTER ZHE WITH BREVE",
    "4C2 CYRILLIC: SMALL LETTER ZHE WITH BREVE, CAPITAL LETTER KA WITH HOOK, SMALL LETTER KA WITH HOOK",
    "4C5 CYRILLIC: CAPITAL LETTER EL WITH TAIL, SMALL LETTER EL WITH TAIL, CAPITAL LETTER EN WITH HOOK",
    "4C8 CYRILLIC: SMALL LETTER EN WITH HOOK, CAPITAL LETTER EN WITH TAIL, SMALL LETTER EN WITH TAIL",
    "4CB CYRILLIC: CAPITAL LETTER KHAKASSIAN CHE, SMALL LETTER KHAKASSIAN CHE, CAPITAL LETTER EM WITH TAIL",
    "4CE CYRILLIC: SMALL LETTER EM WITH TAIL, SMALL LETTER PALOCHKA, CAPITAL LETTER A WITH BREVE",
    "4D1 CYRILLIC: SMALL LETTER A WITH BREVE, CAPITAL LETTER A WITH DIAERESIS, SMALL LETTER A WITH DIAERESIS",
    "4D4 CYRILLIC: CAPITAL LIGATURE A IE, SMALL LIGATURE A IE, CAPITAL LETTER IE WITH BREVE",
    "4D7 CYRILLIC: SMALL LETTER IE WITH BREVE, CAPITAL LETTER SCHWA, SMALL LETTER SCHWA",
    "4DA CYRILLIC: CAPITAL LETTER SCHWA WITH DIAERESIS, SMALL LETTER SCHWA WITH DIAERESIS",
    "4DC CYRILLIC: CAPITAL LETTER ZHE WITH DIAERESIS, SMALL LETTER ZHE WITH DIAERESIS",
    "4DE CYRILLIC: CAPITAL LETTER ZE WITH DIAERESIS, SMALL LETTER ZE WITH DIAERESIS",
    "4E0 CYRILLIC: CAPITAL LETTER ABKHASIAN DZE, SMALL LETTER ABKHASIAN DZE, CAPITAL LETTER I WITH MACRON",
    "4E3 CYRILLIC: SMALL LETTER I WITH MACRON, CAPITAL LETTER I WITH DIAERESIS, SMALL LETTER I WITH DIAERESIS",
    "4E6 CYRILLIC: CAPITAL LETTER O WITH DIAERESIS, SMALL LETTER O WITH DIAERESIS, CAPITAL LETTER BARRED O",
    "4E9 CYRILLIC: SMALL LETTER BARRED O, CAPITAL LETTER BARRED O WITH DIAERESIS",
    "4EB CYRILLIC: SMALL LETTER BARRED O WITH DIAERESIS, CAPITAL LETTER E WITH DIAERESIS",
    "4ED CYRILLIC: SMALL LETTER E WITH DIAERESIS, CAPITAL LETTER U WITH MACRON, SMALL LETTER U WITH MACRON",
    "4F0 CYRILLIC: CAPITAL LETTER U WITH DIAERESIS, SMALL LETTER U WITH DIAERESIS",
    "4F2 CYRILLIC: CAPITAL LETTER U WITH DOUBLE ACUTE, SMALL LETTER U WITH DOUBLE ACUTE",
    "4F4 CYRILLIC: CAPITAL LETTER CHE WITH DIAERESIS, SMALL LETTER CHE WITH DIAERESIS",
    "4F6 CYRILLIC: CAPITAL LETTER GHE WITH DESCENDER, SMALL LETTER GHE WITH DESCENDER",
    "4F8 CYRILLIC: CAPITAL LETTER YERU WITH DIAERESIS, SMALL LETTER YERU WITH DIAERESIS",
    "4FA CYRILLIC: CAPITAL LETTER GHE WITH STROKE AND HOOK, SMALL LETTER GHE WITH STROKE AND HOOK",
    "4FC CYRILLIC: CAPITAL LETTER HA WITH HOOK, SMALL LETTER HA WITH HOOK, CAPITAL LETTER HA WITH STROKE",
    "4FF CYRILLIC: SMALL LETTER HA WITH STROKE, CAPITAL LETTER KOMI DE, SMALL LETTER KOMI DE",
    "502 CYRILLIC: CAPITAL LETTER KOMI DJE, SMALL LETTER KOMI DJE, CAPITAL LETTER KOMI ZJE",
    "505 CYRILLIC: SMALL LETTER KOMI ZJE, CAPITAL LETTER KOMI DZJE, SMALL LETTER KOMI DZJE",
    "508 CYRILLIC: CAPITAL LETTER KOMI LJE, SMALL LETTER KOMI LJE, CAPITAL LETTER KOMI NJE",
    "50B CYRILLIC: SMALL LETTER KOMI NJE, CAPITAL LETTER KOMI SJE, SMALL LETTER KOMI SJE",
    "50E CYRILLIC: CAPITAL LETTER KOMI TJE, SMALL LETTER KOMI TJE, CAPITAL LETTER REVERSED ZE",
    "511 CYRILLIC: SMALL LETTER REVERSED ZE, CAPITAL LETTER EL WITH HOOK, SMALL LETTER EL WITH HOOK",
    "514 CYRILLIC: CAPITAL LETTER LHA, SMALL LETTER LHA, CAPITAL LETTER RHA, SMALL LETTER RHA",
    "518 CYRILLIC: CAPITAL LETTER YAE, SMALL LETTER YAE, CAPITAL LETTER QA, SMALL LETTER QA",
    "51C CYRILLIC: CAPITAL LETTER WE, SMALL LETTER WE, CAPITAL LETTER ALEUT KA, SMALL LETTER ALEUT KA",
    "520 CYRILLIC: CAPITAL LETTER EL WITH MIDDLE HOOK, SMALL LETTER EL WITH MIDDLE HOOK",
    "522 CYRILLIC: CAPITAL LETTER EN WITH MIDDLE HOOK, SMALL LETTER EN WITH MIDDLE HOOK",
    "524 CYRILLIC: CAPITAL LETTER PE WITH DESCENDER, SMALL LETTER PE WITH DESCENDER",
    "526 CYRILLIC: CAPITAL LETTER SHHA WITH DESCENDER, SMALL LETTER SHHA WITH DESCENDER",
    "528 CYRILLIC: CAPITAL LETTER EN WITH LEFT HOOK, SMALL LETTER EN WITH LEFT HOOK, CAPITAL LETTER DZZHE",
    "52B CYRILLIC: SMALL LETTER DZZHE, CAPITAL LETTER DCHE, SMALL LETTER DCHE",
    "52E CYRILLIC: CAPITAL LETTER EL WITH DESCENDER, SMALL LETTER EL WITH DESCENDER",
    "531 ARMENIAN CAPITAL LETTER: AYB, BEN, GIM, DA, ECH, ZA, EH, ET, TO, ZHE, INI, LIWN, XEH, CA, KEN, HO",
    "541 ARMENIAN CAPITAL LETTER: JA, GHAD, CHEH, MEN, YI, NOW, SHA, VO, CHA, PEH, JHEH, RA, SEH, VEW, TIWN",
    "550 ARMENIAN CAPITAL LETTER: REH, CO, YIWN, PIWR, KEH, OH, FEH",
    "559 ARMENIAN: MODIFIER LETTER LEFT HALF RING, APOSTROPHE, EMPHASIS MARK, EXCLAMATION MARK, COMMA",
    "55E ARMENIAN: QUESTION MARK, ABBREVIATION MARK",
    "560 ARMENIAN SMALL LETTER: TURNED AYB, AYB, BEN, GIM, DA, ECH, ZA, EH, ET, TO, ZHE, INI, LIWN, XEH, CA",
    "56F ARMENIAN SMALL LETTER: KEN, HO, JA, GHAD, CHEH, MEN, YI, NOW, SHA, VO, CHA, PEH, JHEH, RA, SEH, VEW",
    "57F ARMENIAN SMALL LETTER: TIWN, REH, CO, YIWN, PIWR, KEH, OH, FEH",
    "587 ARMENIAN: SMALL LIGATURE ECH YIWN, SMALL LETTER YI WITH STROKE, FULL STOP, HYPHEN",
    "58D: RIGHT-FACING ARMENIAN ETERNITY SIGN, LEFT-FACING ARMENIAN ETERNITY SIGN, ARMENIAN DRAM SIGN",
    "591 HEBREW ACCENT: ETNAHTA, SEGOL, SHALSHELET, ZAQEF QATAN, ZAQEF GADOL, TIPEHA, REVIA, ZARQA, PASHTA",
    "59A HEBREW ACCENT: YETIV, TEVIR, GERESH, GERESH MUQDAM, GERSHAYIM, QARNEY PARA, TELISHA GEDOLA, PAZER",
    "5A2 HEBREW ACCENT: ATNAH HAFUKH, MUNAH, MAHAPAKH, MERKHA, MERKHA KEFULA, DARGA, QADMA, TELISHA QETANA",
    "5AA HEBREW ACCENT: YERAH BEN YOMO, OLE, ILUY, DEHI, ZINOR; 5AF HEBREW MARK MASORA: CIRCLE",
    "5B0 HEBREW POINT: SHEVA, HATAF SEGOL, HATAF PATAH, HATAF QAMATS, HIRIQ, TSERE, SEGOL, PATAH, QAMATS",
    "5B9 HEBREW POINT: HOLAM, HOLAM HASER FOR VAV, QUBUTS, DAGESH OR MAPIQ, METEG",
    "5BE HEBREW: PUNCTUATION MAQAF, POINT RAFE, PUNCTUATION PASEQ, POINT SHIN DOT, POINT SIN DOT",
    "5C3 HEBREW: PUNCTUATION SOF PASUQ, MARK UPPER DOT, MARK LOWER DOT, PUNCTUATION NUN HAFUKHA",
    "5C7 HEBREW: POINT QAMATS QATAN",
    "5D0 HEBREW LETTER: ALEF, BET, GIMEL, DALET, HE, VAV, ZAYIN, HET, TET, YOD, FINAL KAF, KAF, LAMED",
    "5DD HEBREW LETTER: FINAL MEM, MEM, FINAL NUN, NUN, SAMEKH, AYIN, FINAL PE, PE, FINAL TSADI, TSADI, QOF",
    "5E8 HEBREW LETTER: RESH, SHIN, TAV; 5EF HEBREW YOD: TRIANGLE",
    "5F0 HEBREW LIGATURE YIDDISH: DOUBLE VAV, VAV YOD, DOUBLE YOD; 5F3 HEBREW PUNCTUATION: GERESH, GERSHAYIM",
    "600 ARABIC: NUMBER SIGN, SIGN SANAH, FOOTNOTE MARKER, SIGN SAFHA, SIGN SAMVAT, NUMBER MARK ABOVE",
    "606 ARABIC-INDIC: CUBE ROOT, FOURTH ROOT; 608 ARABIC: RAY",
    "609 ARABIC-INDIC PER: MILLE SIGN, TEN THOUSAND SIGN; 60B AFGHANI: SIGN",
    "60C ARABIC: COMMA, DATE SEPARATOR, POETIC VERSE SIGN",
    "60F ARABIC SIGN: MISRA, SALLALLAHOU ALAYHE WASSALLAM, ALAYHE ASSALLAM, RAHMATULLAH ALAYHE",
    "613 ARABIC SIGN: RADI ALLAHOU ANHU, TAKHALLUS",
    "615 ARABIC SMALL: HIGH TAH, HIGH LIGATURE ALEF WITH LAM WITH YEH, HIGH ZAIN, FATHA, DAMMA, KASRA",
    "61B ARABIC: SEMICOLON, LETTER MARK, END OF TEXT MARK, TRIPLE DOT PUNCTUATION MARK, QUESTION MARK",
    "620 ARABIC LETTER: KASHMIRI YEH, HAMZA, ALEF WITH MADDA ABOVE, ALEF WITH HAMZA ABOVE",
    "624 ARABIC LETTER: WAW WITH HAMZA ABOVE, ALEF WITH HAMZA BELOW, YEH WITH HAMZA ABOVE, ALEF, BEH",
    "629 ARABIC LETTER: TEH MARBUTA, TEH, THEH, JEEM, HAH, KHAH, DAL, THAL, REH, ZAIN, SEEN, SHEEN, SAD, DAD",
    "637 ARABIC LETTER: TAH, ZAH, AIN, GHAIN, KEHEH WITH TWO DOTS ABOVE, KEHEH WITH THREE DOTS BELOW",
    "63D ARABIC LETTER FARSI YEH WITH: INVERTED V, TWO DOTS ABOVE, THREE DOTS ABOVE; 640 ARABIC: TATWEEL",
    "641 ARABIC LETTER: FEH, QAF, KAF, LAM, MEEM, NOON, HEH, WAW, ALEF MAKSURA, YEH",
    "64B ARABIC: FATHATAN, DAMMATAN, KASRATAN, FATHA, DAMMA, KASRA, SHADDA, SUKUN, MADDAH ABOVE, HAMZA ABOVE",
    "655 ARABIC: HAMZA BELOW, SUBSCRIPT ALEF, INVERTED DAMMA, MARK NOON GHUNNA, ZWARAKAY",
    "65A ARABIC: VOWEL SIGN SMALL V ABOVE, VOWEL SIGN INVERTED SMALL V ABOVE, VOWEL SIGN DOT BELOW",
    "65D ARABIC: REVERSED DAMMA, FATHA WITH TWO DOTS, WAVY HAMZA BELOW",
    "660 ARABIC-INDIC DIGIT: ZERO, ONE, TWO, THREE, FOUR, FIVE, SIX, SEVEN, EIGHT, NINE",
    "66A ARABIC: PERCENT SIGN, DECIMAL SEPARATOR, THOUSANDS SEPARATOR, FIVE POINTED STAR",
    "66E ARABIC LETTER: DOTLESS BEH, DOTLESS QAF, SUPERSCRIPT ALEF, ALEF WASLA, ALEF WITH WAVY HAMZA ABOVE",
    "673 ARABIC LETTER: ALEF WITH WAVY HAMZA BELOW, HIGH HAMZA, HIGH HAMZA ALEF, HIGH HAMZA WAW",
    "677 ARABIC LETTER: U WITH HAMZA ABOVE, HIGH HAMZA YEH, TTEH, TTEHEH, BEEH, TEH WITH RING",
    "67D ARABIC LETTER: TEH WITH THREE DOTS ABOVE DOWNWARDS, PEH, TEHEH, BEHEH, HAH WITH HAMZA ABOVE",
    "682 ARABIC LETTER: HAH WITH TWO DOTS VERTICAL ABOVE, NYEH, DYEH, HAH WITH THREE DOTS ABOVE, TCHEH",
    "687 ARABIC LETTER: TCHEHEH, DDAL, DAL WITH RING, DAL WITH DOT BELOW, DAL WITH DOT BELOW AND SMALL TAH",
    "68C ARABIC LETTER: DAHAL, DDAHAL, DUL, DAL WITH THREE DOTS ABOVE DOWNWARDS, DAL WITH FOUR DOTS ABOVE",
    "691 ARABIC LETTER: RREH",
    "692 ARABIC LETTER REH WITH: SMALL V, RING, DOT BELOW, SMALL V BELOW, DOT BELOW AND DOT ABOVE",
    "697 ARABIC LETTER REH WITH: TWO DOTS ABOVE",
    "698 ARABIC LETTER: JEH, REH WITH FOUR DOTS ABOVE, SEEN WITH DOT BELOW AND DOT ABOVE",
    "69B ARABIC LETTER: SEEN WITH THREE DOTS BELOW, SEEN WITH THREE DOTS BELOW AND THREE DOTS ABOVE",
    "69D ARABIC LETTER: SAD WITH TWO DOTS BELOW, SAD WITH THREE DOTS ABOVE, TAH WITH THREE DOTS ABOVE",
    "6A0 ARABIC LETTER: AIN WITH THREE DOTS ABOVE, DOTLESS FEH, FEH WITH DOT MOVED BELOW, FEH WITH DOT BELOW",
    "6A4 ARABIC LETTER: VEH, FEH WITH THREE DOTS BELOW, PEHEH, QAF WITH DOT ABOVE, QAF WITH THREE DOTS ABOVE",
    "6A9 ARABIC LETTER: KEHEH, SWASH KAF, KAF WITH RING, KAF WITH DOT ABOVE, NG, KAF WITH THREE DOTS BELOW",
    "6AF ARABIC LETTER: GAF, GAF WITH RING, NGOEH, GAF WITH TWO DOTS BELOW, GUEH, GAF WITH THREE DOTS ABOVE",
    "6B5 ARABIC LETTER: LAM WITH SMALL V, LAM WITH DOT ABOVE, LAM WITH THREE DOTS ABOVE",
    "6B8 ARABIC LETTER: LAM WITH THREE DOTS BELOW, NOON WITH DOT BELOW, NOON GHUNNA, RNOON, NOON WITH RING",
    "6BD ARABIC LETTER: NOON WITH THREE DOTS ABOVE, HEH DOACHASHMEE, TCHEH WITH DOT ABOVE, HEH WITH YEH ABOVE",
    "6C1 ARABIC LETTER: HEH GOAL, HEH GOAL WITH HAMZA ABOVE, TEH MARBUTA GOAL, WAW WITH RING, KIRGHIZ OE, OE",
    "6C7 ARABIC LETTER: U, YU, KIRGHIZ YU, WAW WITH TWO DOTS ABOVE, VE, FARSI YEH, YEH WITH TAIL",
    "6CE ARABIC LETTER: YEH WITH SMALL V, WAW WITH DOT ABOVE, E, YEH WITH THREE DOTS BELOW, YEH BARREE",
    "6D3 ARABIC LETTER: YEH BARREE WITH HAMZA ABOVE; 6D4 ARABIC: FULL STOP, LETTER AE",
    "6D6 ARABIC SMALL HIGH: LIGATURE SAD WITH LAM WITH ALEF MAKSURA, LIGATURE QAF WITH LAM WITH ALEF MAKSURA",
    "6D8 ARABIC SMALL HIGH: MEEM INITIAL FORM, LAM ALEF, JEEM, THREE DOTS, SEEN",
    "6DD ARABIC: END OF AYAH, START OF RUB EL HIZB",
    "6DF ARABIC SMALL: HIGH ROUNDED ZERO, HIGH UPRIGHT RECTANGULAR ZERO, HIGH DOTLESS HEAD OF KHAH",
    "6E2 ARABIC SMALL: HIGH MEEM ISOLATED FORM, LOW SEEN, HIGH MADDA, WAW, YEH, HIGH YEH, HIGH NOON",
    "6E9 ARABIC: PLACE OF SAJDAH, EMPTY CENTRE LOW STOP, EMPTY CENTRE HIGH STOP",
    "6EC ARABIC: ROUNDED HIGH STOP WITH FILLED CENTRE, SMALL LOW MEEM, LETTER DAL WITH INVERTED V",
    "6EF ARABIC: LETTER REH WITH INVERTED V",
    "6F0 EXTENDED ARABIC-INDIC DIGIT: ZERO, ONE, TWO, THREE, FOUR, FIVE, SIX, SEVEN, EIGHT, NINE",
    "6FA ARABIC LETTER: SHEEN WITH DOT BELOW, DAD WITH DOT BELOW, GHAIN WITH DOT BELOW",
    "6FD ARABIC: SIGN SINDHI AMPERSAND, SIGN SINDHI POSTPOSITION MEN, LETTER HEH WITH INVERTED V",
    "700 SYRIAC: END OF PARAGRAPH, SUPRALINEAR FULL STOP, SUBLINEAR FULL STOP, SUPRALINEAR COLON",
    "704 SYRIAC: SUBLINEAR COLON, HORIZONTAL COLON, COLON SKEWED LEFT, COLON SKEWED RIGHT",
    "708 SYRIAC: SUPRALINEAR COLON SKEWED LEFT, SUBLINEAR COLON SKEWED RIGHT, CONTRACTION",
    "70B SYRIAC HARKLEAN: OBELUS, METOBELUS, ASTERISCUS; 70F SYRIAC ABBREVIATION: MARK",
    "710 SYRIAC LETTER: ALAPH, SUPERSCRIPT ALAPH, BETH, GAMAL, GAMAL GARSHUNI, DALATH, DOTLESS DALATH RISH",
    "717 SYRIAC LETTER: HE, WAW, ZAIN, HETH, TETH, TETH GARSHUNI, YUDH, YUDH HE, KAPH, LAMADH, MIM, NUN",
    "723 SYRIAC LETTER: SEMKATH, FINAL SEMKATH, E, PE, REVERSED PE, SADHE, QAPH, RISH, SHIN, TAW",
    "72D SYRIAC LETTER: PERSIAN BHETH, PERSIAN GHAMAL, PERSIAN DHALATH",
    "730 SYRIAC PTHAHA: ABOVE, BELOW, DOTTED; 733 SYRIAC ZQAPHA: ABOVE, BELOW, DOTTED",
    "736 SYRIAC: RBASA ABOVE, RBASA BELOW, DOTTED ZLAMA HORIZONTAL, DOTTED ZLAMA ANGULAR, HBASA ABOVE",
    "73B SYRIAC: HBASA BELOW, HBASA-ESASA DOTTED, ESASA ABOVE, ESASA BELOW, RWAHA, FEMININE DOT, QUSHSHAYA",
    "742 SYRIAC: RUKKAKHA, TWO VERTICAL DOTS ABOVE, TWO VERTICAL DOTS BELOW, THREE DOTS ABOVE",
    "746 SYRIAC: THREE DOTS BELOW, OBLIQUE LINE ABOVE, OBLIQUE LINE BELOW, MUSIC, BARREKH",
    "74D SYRIAC LETTER SOGDIAN: ZHAIN, KHAPH, FE",
    "750 ARABIC LETTER BEH WITH: THREE DOTS HORIZONTALLY BELOW, DOT BELOW AND THREE DOTS ABOVE",
    "752 ARABIC LETTER BEH WITH: THREE DOTS POINTING UPWARDS BELOW",
    "753 ARABIC LETTER BEH WITH: THREE DOTS POINTING UPWARDS BELOW AND TWO DOTS ABOVE",
    "754 ARABIC LETTER BEH WITH: TWO DOTS BELOW AND DOT ABOVE, INVERTED SMALL V BELOW, SMALL V",
    "757 ARABIC LETTER: HAH WITH TWO DOTS ABOVE, HAH WITH THREE DOTS POINTING UPWARDS BELOW",
    "759 ARABIC LETTER: DAL WITH TWO DOTS VERTICALLY BELOW AND SMALL TAH, DAL WITH INVERTED SMALL V BELOW",
    "75B ARABIC LETTER: REH WITH STROKE, SEEN WITH FOUR DOTS ABOVE, AIN WITH TWO DOTS ABOVE",
    "75E ARABIC LETTER: AIN WITH THREE DOTS POINTING DOWNWARDS ABOVE, AIN WITH TWO DOTS VERTICALLY ABOVE",
    "760 ARABIC LETTER: FEH WITH TWO DOTS BELOW, FEH WITH THREE DOTS POINTING UPWARDS BELOW",
    "762 ARABIC LETTER: KEHEH WITH DOT ABOVE, KEHEH WITH THREE DOTS ABOVE",
    "764 ARABIC LETTER: KEHEH WITH THREE DOTS POINTING UPWARDS BELOW, MEEM WITH DOT ABOVE",
    "766 ARABIC LETTER: MEEM WITH DOT BELOW, NOON WITH TWO DOTS BELOW, NOON WITH SMALL TAH, NOON WITH SMALL V",
    "76A ARABIC LETTER: LAM WITH BAR, REH WITH TWO DOTS VERTICALLY ABOVE, REH WITH HAMZA ABOVE",
    "76D ARABIC LETTER: SEEN WITH TWO DOTS VERTICALLY ABOVE, HAH WITH SMALL ARABIC LETTER TAH BELOW",
    "76F ARABIC LETTER: HAH WITH SMALL ARABIC LETTER TAH AND TWO DOTS",
    "770 ARABIC LETTER: SEEN WITH SMALL ARABIC LETTER TAH AND TWO DOTS",
    "771 ARABIC LETTER: REH WITH SMALL ARABIC LETTER TAH AND TWO DOTS, HAH WITH SMALL ARABIC LETTER TAH ABOVE",
    "773 ARABIC LETTER ALEF WITH EXTENDED ARABIC-INDIC DIGIT: TWO ABOVE, THREE ABOVE",
    "775 ARABIC LETTER FARSI YEH WITH EXTENDED ARABIC-INDIC DIGIT: TWO ABOVE, THREE ABOVE, FOUR BELOW",
    "778 ARABIC LETTER WAW WITH EXTENDED ARABIC-INDIC DIGIT: TWO ABOVE, THREE ABOVE",
    "77A ARABIC LETTER YEH BARREE WITH EXTENDED ARABIC-INDIC DIGIT: TWO ABOVE, THREE ABOVE",
    "77C ARABIC LETTER: HAH WITH EXTENDED ARABIC-INDIC DIGIT FOUR BELOW",
    "77D ARABIC LETTER: SEEN WITH EXTENDED ARABIC-INDIC DIGIT FOUR ABOVE, SEEN WITH INVERTED V",
    "77F ARABIC LETTER: KAF WITH TWO DOTS ABOVE",
    "780 THAANA LETTER: HAA, SHAVIYANI, NOONU, RAA, BAA, LHAVIYANI, KAAFU, ALIFU, VAAVU, MEEMU, FAAFU, DHAALU",
    "78C THAANA LETTER: THAA, LAAMU, GAAFU, GNAVIYANI, SEENU, DAVIYANI, ZAVIYANI, TAVIYANI, YAA, PAVIYANI",
    "796 THAANA LETTER: JAVIYANI, CHAVIYANI, TTAA, HHAA, KHAA, THAALU, ZAA, SHEENU, SAADHU, DAADHU, TO, ZO",
    "7A2 THAANA LETTER: AINU, GHAINU, QAAFU, WAAVU",
    "7A6 THAANA: ABAFILI, AABAAFILI, IBIFILI, EEBEEFILI, UBUFILI, OOBOOFILI, EBEFILI, EYBEYFILI, OBOFILI",
    "7AF THAANA: OABOAFILI, SUKUN, LETTER NAA",
    "7C0 NKO DIGIT: ZERO, ONE, TWO, THREE, FOUR, FIVE, SIX, SEVEN, EIGHT, NINE",
    "7CA NKO LETTER: A, EE, I, E, U, OO, O, DAGBASINNA, N, BA, PA, TA, JA, CHA, DA, RA, RRA, SA, GBA, FA, KA",
    "7DF NKO LETTER: LA, NA WOLOSO, MA, NYA, NA, HA, WA, YA, NYA WOLOSO, JONA JA, JONA CHA, JONA RA",
    "7EB NKO COMBINING: SHORT HIGH TONE, SHORT LOW TONE, SHORT RISING TONE, LONG DESCENDING TONE",
    "7EF NKO COMBINING: LONG HIGH TONE, LONG LOW TONE, LONG RISING TONE, NASALIZATION MARK, DOUBLE DOT ABOVE",
    "7F4 NKO: HIGH TONE APOSTROPHE, LOW TONE APOSTROPHE, SYMBOL OO DENNEN, SYMBOL GBAKURUNEN, COMMA",
    "7F9 NKO: EXCLAMATION MARK, LAJANYALAN; 7FD NKO: DANTAYALAN, DOROME SIGN, TAMAN SIGN",
    "800 SAMARITAN LETTER: ALAF, BIT, GAMAN, DALAT, IY, BAA, ZEN, IT, TIT, YUT, KAAF, LABAT, MIM, NUN",
    "80E SAMARITAN LETTER: SINGAAT, IN, FI, TSAADIY, QUF, RISH, SHAN, TAAF",
    "816 SAMARITAN: MARK IN, MARK IN-ALAF, MARK OCCLUSION, MARK DAGESH, MODIFIER LETTER EPENTHETIC YUT",
    "81B SAMARITAN: MARK EPENTHETIC YUT",
    "81C SAMARITAN VOWEL SIGN: LONG E, E, OVERLONG AA, LONG AA, AA, OVERLONG A, LONG A, A",
    "824 SAMARITAN: MODIFIER LETTER SHORT A, VOWEL SIGN SHORT A, VOWEL SIGN LONG U, VOWEL SIGN U",
    "828 SAMARITAN: MODIFIER LETTER I; 829 SAMARITAN VOWEL SIGN: LONG I, I, O, SUKUN",
    "82D SAMARITAN MARK: NEQUDAA; 830 SAMARITAN PUNCTUATION: NEQUDAA, AFSAAQ, ANGED, BAU, ATMAAU, SHIYYAALAA",
    "836 SAMARITAN ABBREVIATION: MARK",
    "837 SAMARITAN PUNCTUATION: MELODIC QITSA, ZIQAA, QITSA, ZAEF, TURU, ARKAANU, SOF MASHFAAT, ANNAAU",
    "840 MANDAIC LETTER: HALQA, AB, AG, AD, AH, USHENNA, AZ, IT, ATT, AKSA, AK, AL, AM, AN, AS, IN, AP, ASZ",
    "852 MANDAIC LETTER: AQ, AR, ASH, AT, DUSHENNA, KAD, AIN",
    "859 MANDAIC: AFFRICATION MARK, VOCALIZATION MARK, GEMINATION MARK; 85E MANDAIC: PUNCTUATION",
    "860 SYRIAC LETTER MALAYALAM: NGA, JA, NYA, TTA, NNA, NNNA, BHA, RA, LLA, LLLA, SSA",
    "870 ARABIC LETTER ALEF WITH: ATTACHED FATHA, ATTACHED TOP RIGHT FATHA, RIGHT MIDDLE STROKE",
    "873 ARABIC LETTER ALEF WITH: LEFT MIDDLE STROKE, ATTACHED KASRA, ATTACHED BOTTOM RIGHT KASRA",
    "876 ARABIC LETTER ALEF WITH: ATTACHED ROUND DOT ABOVE, ATTACHED RIGHT ROUND DOT, ATTACHED LEFT ROUND DOT",
    "879 ARABIC LETTER ALEF WITH: ATTACHED ROUND DOT BELOW, DOT ABOVE, ATTACHED TOP RIGHT FATHA AND DOT ABOVE",
    "87C ARABIC LETTER ALEF WITH: RIGHT MIDDLE STROKE AND DOT ABOVE",
    "87D ARABIC LETTER ALEF WITH: ATTACHED BOTTOM RIGHT KASRA AND DOT ABOVE",
    "87E ARABIC LETTER ALEF WITH: ATTACHED TOP RIGHT FATHA AND LEFT RING, RIGHT MIDDLE STROKE AND LEFT RING",
    "880 ARABIC LETTER ALEF WITH: ATTACHED BOTTOM RIGHT KASRA AND LEFT RING, ATTACHED RIGHT HAMZA",
    "882 ARABIC LETTER ALEF WITH: ATTACHED LEFT HAMZA",
    "883 ARABIC TATWEEL WITH: OVERSTRUCK HAMZA, OVERSTRUCK WAW, TWO DOTS BELOW",
    "886 ARABIC: LETTER THIN YEH, BASELINE ROUND DOT, RAISED ROUND DOT",
    "889 ARABIC LETTER: NOON WITH INVERTED SMALL V, HAH WITH INVERTED SMALL V BELOW, TAH WITH DOT BELOW",
    "88C ARABIC LETTER: TAH WITH THREE DOTS BELOW, KEHEH WITH TWO DOTS VERTICALLY BELOW",
    "88E ARABIC VERTICAL: TAIL; 890 ARABIC: POUND MARK ABOVE, PIASTRE MARK ABOVE",
    "898 ARABIC SMALL: HIGH WORD AL-JUZ, LOW WORD ISHMAAM, LOW WORD IMAALA, LOW WORD TASHEEL",
    "89C ARABIC: MADDA WAAJIB, SUPERSCRIPT ALEF MOKHASSAS, DOUBLED MADDA, HALF MADDA OVER MADDA",
    "8A0 ARABIC LETTER: BEH WITH SMALL V BELOW, BEH WITH HAMZA ABOVE, JEEM WITH TWO DOTS ABOVE",
    "8A3 ARABIC LETTER: TAH WITH TWO DOTS ABOVE, FEH WITH DOT BELOW AND THREE DOTS ABOVE, QAF WITH DOT BELOW",
    "8A6 ARABIC LETTER: LAM WITH DOUBLE BAR, MEEM WITH THREE DOTS ABOVE",
    "8A8 ARABIC LETTER: YEH WITH TWO DOTS BELOW AND HAMZA ABOVE, YEH WITH TWO DOTS BELOW AND DOT ABOVE",
    "8AA ARABIC LETTER: REH WITH LOOP, WAW WITH DOT WITHIN, ROHINGYA YEH, LOW ALEF, DAL WITH THREE DOTS BELOW",
    "8AF ARABIC LETTER: SAD WITH THREE DOTS BELOW, GAF WITH INVERTED STROKE, STRAIGHT WAW",
    "8B2 ARABIC LETTER: ZAIN WITH INVERTED V ABOVE, AIN WITH THREE DOTS BELOW, KAF WITH DOT BELOW",
    "8B5 ARABIC LETTER: QAF WITH DOT BELOW AND NO DOTS ABOVE, BEH WITH SMALL MEEM ABOVE",
    "8B7 ARABIC LETTER: PEH WITH SMALL MEEM ABOVE, TEH WITH SMALL TEH ABOVE, REH WITH SMALL NOON ABOVE",
    "8BA ARABIC LETTER: YEH WITH TWO DOTS BELOW AND SMALL NOON ABOVE, AFRICAN FEH, AFRICAN QAF, AFRICAN NOON",
    "8BE ARABIC LETTER: PEH WITH SMALL V, TEH WITH SMALL V, TTEH WITH SMALL V, TCHEH WITH SMALL V",
    "8C2 ARABIC LETTER: KEHEH WITH SMALL V, GHAIN WITH THREE DOTS ABOVE, AFRICAN QAF WITH THREE DOTS ABOVE",
    "8C5 ARABIC LETTER: JEEM WITH THREE DOTS ABOVE, JEEM WITH THREE DOTS BELOW",
    "8C7 ARABIC LETTER: LAM WITH SMALL ARABIC LETTER TAH ABOVE, GRAF",
    "8C9 ARABIC SMALL: FARSI YEH, HIGH FARSI YEH, HIGH YEH BARREE WITH TWO DOTS BELOW, HIGH WORD SAH",
    "8CD ARABIC SMALL: HIGH ZAH; 8CE ARABIC LARGE ROUND DOT: ABOVE, BELOW",
    "8D0 ARABIC: SUKUN BELOW, LARGE CIRCLE BELOW, LARGE ROUND DOT INSIDE CIRCLE BELOW",
    "8D3 ARABIC SMALL: LOW WAW, HIGH WORD AR-RUB, HIGH SAD, HIGH AIN, HIGH QAF, HIGH NOON WITH KASRA",
    "8D9 ARABIC SMALL: LOW NOON WITH KASRA",
    "8DA ARABIC SMALL HIGH WORD: ATH-THALATHA, AS-SAJDA, AN-NISF, SAKTA, QIF, WAQFA",
    "8E0 ARABIC: SMALL HIGH FOOTNOTE MARKER, SMALL HIGH SIGN SAFHA, DISPUTED END OF AYAH, TURNED DAMMA BELOW",
    "8E4 ARABIC CURLY: FATHA, DAMMA, KASRA, FATHATAN, DAMMATAN, KASRATAN",
    "8EA ARABIC TONE: ONE DOT ABOVE, TWO DOTS ABOVE, LOOP ABOVE, ONE DOT BELOW, TWO DOTS BELOW, LOOP BELOW",
    "8F0 ARABIC: OPEN FATHATAN, OPEN DAMMATAN, OPEN KASRATAN, SMALL HIGH WAW, FATHA WITH RING",
    "8F5 ARABIC: FATHA WITH DOT ABOVE, KASRA WITH DOT BELOW, LEFT ARROWHEAD ABOVE, RIGHT ARROWHEAD ABOVE",
    "8F9 ARABIC: LEFT ARROWHEAD BELOW, RIGHT ARROWHEAD BELOW, DOUBLE RIGHT ARROWHEAD ABOVE",
    "8FC ARABIC: DOUBLE RIGHT ARROWHEAD ABOVE WITH DOT, RIGHT ARROWHEAD ABOVE WITH DOT, DAMMA WITH DOT",
    "8FF ARABIC: MARK SIDEWAYS NOON GHUNNA",
    "900 DEVANAGARI SIGN: INVERTED CANDRABINDU, CANDRABINDU, ANUSVARA, VISARGA",
    "904 DEVANAGARI LETTER: SHORT A, A, AA, I, II, U, UU, VOCALIC R, VOCALIC L, CANDRA E, SHORT E, E, AI",
    "911 DEVANAGARI LETTER: CANDRA O, SHORT O, O, AU, KA, KHA, GA, GHA, NGA, CA, CHA, JA, JHA, NYA, TTA, TTHA",
    "921 DEVANAGARI LETTER: DDA, DDHA, NNA, TA, THA, DA, DHA, NA, NNNA, PA, PHA, BA, BHA, MA, YA, RA, RRA, LA",
    "933 DEVANAGARI LETTER: LLA, LLLA, VA, SHA, SSA, SA, HA",
    "93A DEVANAGARI: VOWEL SIGN OE, VOWEL SIGN OOE, SIGN NUKTA, SIGN AVAGRAHA",
    "93E DEVANAGARI VOWEL SIGN: AA, I, II, U, UU, VOCALIC R, VOCALIC RR, CANDRA E, SHORT E, E, AI, CANDRA O",
    "94A DEVANAGARI VOWEL SIGN: SHORT O, O, AU",
    "94D DEVANAGARI: SIGN VIRAMA, VOWEL SIGN PRISHTHAMATRA E, VOWEL SIGN AW, OM, STRESS SIGN UDATTA",
    "952 DEVANAGARI: STRESS SIGN ANUDATTA, GRAVE ACCENT, ACUTE ACCENT",
    "955 DEVANAGARI VOWEL SIGN: CANDRA LONG E, UE, UUE",
    "958 DEVANAGARI LETTER: QA, KHHA, GHHA, ZA, DDDHA, RHA, FA, YYA, VOCALIC RR, VOCALIC LL",
    "962 DEVANAGARI VOWEL SIGN VOCALIC: L, LL; 964 DEVANAGARI: DANDA, DOUBLE DANDA",
    "966 DEVANAGARI DIGIT: ZERO, ONE, TWO, THREE, FOUR, FIVE, SIX, SEVEN, EIGHT, NINE",
    "970 DEVANAGARI: ABBREVIATION SIGN, SIGN HIGH SPACING DOT",
    "972 DEVANAGARI LETTER: CANDRA A, OE, OOE, AW, UE, UUE, MARWARI DDA, ZHA, HEAVY YA, GGA, JJA",
    "97D DEVANAGARI LETTER: GLOTTAL STOP, DDDA, BBA",
    "980 BENGALI: ANJI, SIGN CANDRABINDU, SIGN ANUSVARA, SIGN VISARGA",
    "985 BENGALI LETTER: A, AA, I, II, U, UU, VOCALIC R, VOCALIC L; 98F BENGALI LETTER: E, AI",
    "993 BENGALI LETTER: O, AU, KA, KHA, GA, GHA, NGA, CA, CHA, JA, JHA, NYA, TTA, TTHA, DDA, DDHA, NNA, TA",
    "9A5 BENGALI LETTER: THA, DA, DHA, NA; 9AA BENGALI LETTER: PA, PHA, BA, BHA, MA, YA, RA",
    "9B2 BENGALI LETTER: LA; 9B6 BENGALI LETTER: SHA, SSA, SA, HA; 9BC BENGALI SIGN: NUKTA, AVAGRAHA",
    "9BE BENGALI VOWEL SIGN: AA, I, II, U, UU, VOCALIC R, VOCALIC RR; 9C7 BENGALI VOWEL SIGN: E, AI",
    "9CB BENGALI: VOWEL SIGN O, VOWEL SIGN AU, SIGN VIRAMA, LETTER KHANDA TA; 9D7 BENGALI AU LENGTH: MARK",
    "9DC BENGALI LETTER: RRA, RHA; 9DF BENGALI LETTER: YYA, VOCALIC RR, VOCALIC LL",
    "9E2 BENGALI VOWEL SIGN VOCALIC: L, LL",
    "9E6 BENGALI DIGIT: ZERO, ONE, TWO, THREE, FOUR, FIVE, SIX, SEVEN, EIGHT, NINE",
    "9F0 BENGALI LETTER RA WITH: MIDDLE DIAGONAL, LOWER DIAGONAL; 9F2 BENGALI RUPEE: MARK, SIGN",
    "9F4 BENGALI CURRENCY NUMERATOR: ONE, TWO, THREE, FOUR, ONE LESS THAN THE DENOMINATOR",
    "9F9 BENGALI: CURRENCY DENOMINATOR SIXTEEN, ISSHAR, GANDA MARK, LETTER VEDIC ANUSVARA, ABBREVIATION SIGN",
    "9FE BENGALI: SANDHI MARK; A01 GURMUKHI SIGN: ADAK BINDI, BINDI, VISARGA",
    "A05 GURMUKHI LETTER: A, AA, I, II, U, UU; A0F GURMUKHI LETTER: EE, AI",
    "A13 GURMUKHI LETTER: OO, AU, KA, KHA, GA, GHA, NGA, CA, CHA, JA, JHA, NYA, TTA, TTHA, DDA, DDHA, NNA, TA",
    "A25 GURMUKHI LETTER: THA, DA, DHA, NA; A2A GURMUKHI LETTER: PA, PHA, BA, BHA, MA, YA, RA",
    "A32 GURMUKHI LETTER: LA, LLA; A35 GURMUKHI LETTER: VA, SHA; A38 GURMUKHI LETTER: SA, HA",
    "A3C GURMUKHI SIGN: NUKTA; A3E GURMUKHI VOWEL SIGN: AA, I, II, U, UU; A47 GURMUKHI VOWEL SIGN: EE, AI",
    "A4B GURMUKHI: VOWEL SIGN OO, VOWEL SIGN AU, SIGN VIRAMA; A51 GURMUKHI SIGN: UDAAT",
    "A59 GURMUKHI LETTER: KHHA, GHHA, ZA, RRA; A5E GURMUKHI LETTER: FA",
    "A66 GURMUKHI DIGIT: ZERO, ONE, TWO, THREE, FOUR, FIVE, SIX, SEVEN, EIGHT, NINE",
    "A70 GURMUKHI: TIPPI, ADDAK, IRI, URA, EK ONKAR, SIGN YAKASH, ABBREVIATION SIGN",
    "A81 GUJARATI SIGN: CANDRABINDU, ANUSVARA, VISARGA",
    "A85 GUJARATI LETTER: A, AA, I, II, U, UU, VOCALIC R, VOCALIC L; A8D GUJARATI VOWEL CANDRA: E",
    "A8F GUJARATI: LETTER E, LETTER AI, VOWEL CANDRA O",
    "A93 GUJARATI LETTER: O, AU, KA, KHA, GA, GHA, NGA, CA, CHA, JA, JHA, NYA, TTA, TTHA, DDA, DDHA, NNA, TA",
    "AA5 GUJARATI LETTER: THA, DA, DHA, NA; AAA GUJARATI LETTER: PA, PHA, BA, BHA, MA, YA, RA",
    "AB2 GUJARATI LETTER: LA, LLA; AB5 GUJARATI LETTER: VA, SHA, SSA, SA, HA",
    "ABC GUJARATI SIGN: NUKTA, AVAGRAHA",
    "ABE GUJARATI VOWEL SIGN: AA, I, II, U, UU, VOCALIC R, VOCALIC RR, CANDRA E",
    "AC7 GUJARATI VOWEL SIGN: E, AI, CANDRA O; ACB GUJARATI: VOWEL SIGN O, VOWEL SIGN AU, SIGN VIRAMA",
    "AD0 GUJARATI: OM; AE0 GUJARATI LETTER VOCALIC: RR, LL; AE2 GUJARATI VOWEL SIGN VOCALIC: L, LL",
    "AE6 GUJARATI DIGIT: ZERO, ONE, TWO, THREE, FOUR, FIVE, SIX, SEVEN, EIGHT, NINE",
    "AF0 GUJARATI: ABBREVIATION SIGN, RUPEE SIGN; AF9 GUJARATI LETTER: ZHA",
    "AFA GUJARATI SIGN: SUKUN, SHADDA, MADDAH, THREE-DOT NUKTA ABOVE, CIRCLE NUKTA ABOVE",
    "AFF GUJARATI SIGN: TWO-CIRCLE NUKTA ABOVE; B01 ORIYA SIGN: CANDRABINDU, ANUSVARA, VISARGA",
    "B05 ORIYA LETTER: A, AA, I, II, U, UU, VOCALIC R, VOCALIC L; B0F ORIYA LETTER: E, AI",
    "B13 ORIYA LETTER: O, AU, KA, KHA, GA, GHA, NGA, CA, CHA, JA, JHA, NYA, TTA, TTHA, DDA, DDHA, NNA, TA",
    "B25 ORIYA LETTER: THA, DA, DHA, NA; B2A ORIYA LETTER: PA, PHA, BA, BHA, MA, YA, RA",
    "B32 ORIYA LETTER: LA, LLA; B35 ORIYA LETTER: VA, SHA, SSA, SA, HA; B3C ORIYA SIGN: NUKTA, AVAGRAHA",
    "B3E ORIYA VOWEL SIGN: AA, I, II, U, UU, VOCALIC R, VOCALIC RR; B47 ORIYA VOWEL SIGN: E, AI",
    "B4B ORIYA: VOWEL SIGN O, VOWEL SIGN AU, SIGN VIRAMA",
    "B55 ORIYA: SIGN OVERLINE, AI LENGTH MARK, AU LENGTH MARK; B5C ORIYA LETTER: RRA, RHA",
    "B5F ORIYA LETTER: YYA, VOCALIC RR, VOCALIC LL; B62 ORIYA VOWEL SIGN VOCALIC: L, LL",
    "B66 ORIYA DIGIT: ZERO, ONE, TWO, THREE, FOUR, FIVE, SIX, SEVEN, EIGHT, NINE",
    "B70 ORIYA: ISSHAR, LETTER WA",
    "B72 ORIYA FRACTION: ONE QUARTER, ONE HALF, THREE QUARTERS, ONE SIXTEENTH, ONE EIGHTH, THREE SIXTEENTHS",
    "B82 TAMIL SIGN: ANUSVARA, VISARGA; B85 TAMIL LETTER: A, AA, I, II, U, UU; B8E TAMIL LETTER: E, EE, AI",
    "B92 TAMIL LETTER: O, OO, AU, KA; B99 TAMIL LETTER: NGA, CA; B9C TAMIL LETTER: JA",
    "B9E TAMIL LETTER: NYA, TTA; BA3 TAMIL LETTER: NNA, TA; BA8 TAMIL LETTER: NA, NNNA, PA",
    "BAE TAMIL LETTER: MA, YA, RA, RRA, LA, LLA, LLLA, VA, SHA, SSA, SA, HA",
    "BBE TAMIL VOWEL SIGN: AA, I, II, U, UU; BC6 TAMIL VOWEL SIGN: E, EE, AI; BCA TAMIL VOWEL SIGN: O, OO, AU",
    "BCD TAMIL SIGN: VIRAMA; BD0 TAMIL: OM; BD7 TAMIL AU LENGTH: MARK",
    "BE6 TAMIL DIGIT: ZERO, ONE, TWO, THREE, FOUR, FIVE, SIX, SEVEN, EIGHT, NINE",
    "BF0 TAMIL NUMBER: TEN, ONE HUNDRED, ONE THOUSAND",
    "BF3 TAMIL: DAY SIGN, MONTH SIGN, YEAR SIGN, DEBIT SIGN, CREDIT SIGN, AS ABOVE SIGN, RUPEE SIGN",
    "BFA TAMIL: NUMBER SIGN",
    "C00 TELUGU SIGN: COMBINING CANDRABINDU ABOVE, CANDRABINDU, ANUSVARA, VISARGA, COMBINING ANUSVARA ABOVE",
    "C05 TELUGU LETTER: A, AA, I, II, U, UU, VOCALIC R, VOCALIC L; C0E TELUGU LETTER: E, EE, AI",
    "C12 TELUGU LETTER: O, OO, AU, KA, KHA, GA, GHA, NGA, CA, CHA, JA, JHA, NYA, TTA, TTHA, DDA, DDHA, NNA",
    "C24 TELUGU LETTER: TA, THA, DA, DHA, NA",
    "C2A TELUGU LETTER: PA, PHA, BA, BHA, MA, YA, RA, RRA, LA, LLA, LLLA, VA, SHA, SSA, SA, HA",
    "C3C TELUGU SIGN: NUKTA, AVAGRAHA; C3E TELUGU VOWEL SIGN: AA, I, II, U, UU, VOCALIC R, VOCALIC RR",
    "C46 TELUGU VOWEL SIGN: E, EE, AI; C4A TELUGU VOWEL SIGN: O, OO, AU; C4D TELUGU SIGN: VIRAMA",
    "C55 TELUGU: LENGTH MARK, AI LENGTH MARK; C58 TELUGU LETTER: TSA, DZA, RRRA",
    "C5D TELUGU LETTER NAKAARA: POLLU; C60 TELUGU LETTER VOCALIC: RR, LL",
    "C62 TELUGU VOWEL SIGN VOCALIC: L, LL",
    "C66 TELUGU DIGIT: ZERO, ONE, TWO, THREE, FOUR, FIVE, SIX, SEVEN, EIGHT, NINE; C77 TELUGU SIGN: SIDDHAM",
    "C78 TELUGU FRACTION DIGIT: ZERO FOR ODD POWERS OF FOUR, ONE FOR ODD POWERS OF FOUR",
    "C7A TELUGU FRACTION DIGIT: TWO FOR ODD POWERS OF FOUR, THREE FOR ODD POWERS OF FOUR",
    "C7C TELUGU FRACTION DIGIT: ONE FOR EVEN POWERS OF FOUR, TWO FOR EVEN POWERS OF FOUR",
    "C7E TELUGU FRACTION DIGIT: THREE FOR EVEN POWERS OF FOUR; C7F TELUGU SIGN: TUUMU",
    "C80 KANNADA SIGN: SPACING CANDRABINDU, CANDRABINDU, ANUSVARA, VISARGA, SIDDHAM",
    "C85 KANNADA LETTER: A, AA, I, II, U, UU, VOCALIC R, VOCALIC L; C8E KANNADA LETTER: E, EE, AI",
    "C92 KANNADA LETTER: O, OO, AU, KA, KHA, GA, GHA, NGA, CA, CHA, JA, JHA, NYA, TTA, TTHA, DDA, DDHA, NNA",
    "CA4 KANNADA LETTER: TA, THA, DA, DHA, NA; CAA KANNADA LETTER: PA, PHA, BA, BHA, MA, YA, RA, RRA, LA, LLA",
    "CB5 KANNADA LETTER: VA, SHA, SSA, SA, HA; CBC KANNADA SIGN: NUKTA, AVAGRAHA",
    "CBE KANNADA VOWEL SIGN: AA, I, II, U, UU, VOCALIC R, VOCALIC RR; CC6 KANNADA VOWEL SIGN: E, EE, AI",
    "CCA KANNADA VOWEL SIGN: O, OO, AU; CCD KANNADA SIGN: VIRAMA; CD5 KANNADA: LENGTH MARK, AI LENGTH MARK",
    "CDD KANNADA LETTER: NAKAARA POLLU, FA; CE0 KANNADA LETTER VOCALIC: RR, LL",
    "CE2 KANNADA VOWEL SIGN VOCALIC: L, LL",
    "CE6 KANNADA DIGIT: ZERO, ONE, TWO, THREE, FOUR, FIVE, SIX, SEVEN, EIGHT, NINE",
    "CF1 KANNADA SIGN: JIHVAMULIYA, UPADHMANIYA",
    "D00 MALAYALAM SIGN: COMBINING ANUSVARA ABOVE, CANDRABINDU, ANUSVARA, VISARGA",
    "D04 MALAYALAM LETTER: VEDIC ANUSVARA, A, AA, I, II, U, UU, VOCALIC R, VOCALIC L",
    "D0E MALAYALAM LETTER: E, EE, AI",
    "D12 MALAYALAM LETTER: O, OO, AU, KA, KHA, GA, GHA, NGA, CA, CHA, JA, JHA, NYA, TTA, TTHA, DDA, DDHA, NNA",
    "D24 MALAYALAM LETTER: TA, THA, DA, DHA, NA, NNNA, PA, PHA, BA, BHA, MA, YA, RA, RRA, LA, LLA, LLLA, VA",
    "D36 MALAYALAM LETTER: SHA, SSA, SA, HA, TTTA",
    "D3B MALAYALAM SIGN: VERTICAL BAR VIRAMA, CIRCULAR VIRAMA, AVAGRAHA",
    "D3E MALAYALAM VOWEL SIGN: AA, I, II, U, UU, VOCALIC R, VOCALIC RR; D46 MALAYALAM VOWEL SIGN: E, EE, AI",
    "D4A MALAYALAM VOWEL SIGN: O, OO, AU; D4D MALAYALAM: SIGN VIRAMA, LETTER DOT REPH, SIGN PARA",
    "D54 MALAYALAM LETTER CHILLU: M, Y, LLL; D57 MALAYALAM AU LENGTH: MARK",
    "D58 MALAYALAM FRACTION: ONE ONE-HUNDRED-AND-SIXTIETH, ONE FORTIETH, THREE EIGHTIETHS, ONE TWENTIETH",
    "D5C MALAYALAM FRACTION: ONE TENTH, THREE TWENTIETHS, ONE FIFTH",
    "D5F MALAYALAM LETTER: ARCHAIC II, VOCALIC RR, VOCALIC LL; D62 MALAYALAM VOWEL SIGN VOCALIC: L, LL",
    "D66 MALAYALAM DIGIT: ZERO, ONE, TWO, THREE, FOUR, FIVE, SIX, SEVEN, EIGHT, NINE",
    "D70 MALAYALAM NUMBER: TEN, ONE HUNDRED, ONE THOUSAND",
    "D73 MALAYALAM FRACTION: ONE QUARTER, ONE HALF, THREE QUARTERS, ONE SIXTEENTH, ONE EIGHTH",
    "D78 MALAYALAM FRACTION: THREE SIXTEENTHS; D79 MALAYALAM DATE: MARK",
    "D7A MALAYALAM LETTER CHILLU: NN, N, RR, L, LL, K; D81 SINHALA SIGN: CANDRABINDU, ANUSVARAYA, VISARGAYA",
    "D85 SINHALA LETTER: AYANNA, AAYANNA, AEYANNA, AEEYANNA, IYANNA, IIYANNA, UYANNA, UUYANNA, IRUYANNA",
    "D8E SINHALA LETTER: IRUUYANNA, ILUYANNA, ILUUYANNA, EYANNA, EEYANNA, AIYANNA, OYANNA, OOYANNA, AUYANNA",
    "D9A SINHALA LETTER: ALPAPRAANA KAYANNA, MAHAAPRAANA KAYANNA, ALPAPRAANA GAYANNA, MAHAAPRAANA GAYANNA",
    "D9E SINHALA LETTER: KANTAJA NAASIKYAYA, SANYAKA GAYANNA, ALPAPRAANA CAYANNA, MAHAAPRAANA CAYANNA",
    "DA2 SINHALA LETTER: ALPAPRAANA JAYANNA, MAHAAPRAANA JAYANNA, TAALUJA NAASIKYAYA",
    "DA5 SINHALA LETTER: TAALUJA SANYOOGA NAAKSIKYAYA, SANYAKA JAYANNA, ALPAPRAANA TTAYANNA",
    "DA8 SINHALA LETTER: MAHAAPRAANA TTAYANNA, ALPAPRAANA DDAYANNA, MAHAAPRAANA DDAYANNA, MUURDHAJA NAYANNA",
    "DAC SINHALA LETTER: SANYAKA DDAYANNA, ALPAPRAANA TAYANNA, MAHAAPRAANA TAYANNA, ALPAPRAANA DAYANNA",
    "DB0 SINHALA LETTER: MAHAAPRAANA DAYANNA, DANTAJA NAYANNA",
    "DB3 SINHALA LETTER: SANYAKA DAYANNA, ALPAPRAANA PAYANNA, MAHAAPRAANA PAYANNA, ALPAPRAANA BAYANNA",
    "DB7 SINHALA LETTER: MAHAAPRAANA BAYANNA, MAYANNA, AMBA BAYANNA, YAYANNA, RAYANNA",
    "DBD SINHALA LETTER DANTAJA: LAYANNA",
    "DC0 SINHALA LETTER: VAYANNA, TAALUJA SAYANNA, MUURDHAJA SAYANNA, DANTAJA SAYANNA, HAYANNA",
    "DC5 SINHALA LETTER: MUURDHAJA LAYANNA, FAYANNA; DCA SINHALA SIGN: AL-LAKUNA",
    "DCF SINHALA VOWEL SIGN: AELA-PILLA, KETTI AEDA-PILLA, DIGA AEDA-PILLA, KETTI IS-PILLA, DIGA IS-PILLA",
    "DD4 SINHALA VOWEL SIGN: KETTI PAA-PILLA; DD6 SINHALA VOWEL SIGN DIGA: PAA-PILLA",
    "DD8 SINHALA VOWEL SIGN: GAETTA-PILLA, KOMBUVA, DIGA KOMBUVA, KOMBU DEKA, KOMBUVA HAA AELA-PILLA",
    "DDD SINHALA VOWEL SIGN: KOMBUVA HAA DIGA AELA-PILLA, KOMBUVA HAA GAYANUKITTA, GAYANUKITTA",
    "DE6 SINHALA LITH DIGIT: ZERO, ONE, TWO, THREE, FOUR, FIVE, SIX, SEVEN, EIGHT, NINE",
    "DF2 SINHALA VOWEL SIGN DIGA: GAETTA-PILLA, GAYANUKITTA; DF4 SINHALA PUNCTUATION: KUNDDALIYA",
    "E01 THAI CHARACTER: KO KAI, KHO KHAI, KHO KHUAT, KHO KHWAI, KHO KHON, KHO RAKHANG, NGO NGU, CHO CHAN",
    "E09 THAI CHARACTER: CHO CHING, CHO CHANG, SO SO, CHO CHOE, YO YING, DO CHADA, TO PATAK, THO THAN",
    "E11 THAI CHARACTER: THO NANGMONTHO, THO PHUTHAO, NO NEN, DO DEK, TO TAO, THO THUNG, THO THAHAN",
    "E18 THAI CHARACTER: THO THONG, NO NU, BO BAIMAI, PO PLA, PHO PHUNG, FO FA, PHO PHAN, FO FAN, PHO SAMPHAO",
    "E21 THAI CHARACTER: MO MA, YO YAK, RO RUA, RU, LO LING, LU, WO WAEN, SO SALA, SO RUSI, SO SUA, HO HIP",
    "E2C THAI CHARACTER: LO CHULA, O ANG, HO NOKHUK, PAIYANNOI, SARA A, MAI HAN-AKAT, SARA AA, SARA AM",
    "E34 THAI CHARACTER: SARA I, SARA II, SARA UE, SARA UEE, SARA U, SARA UU, PHINTHU",
    "E3F THAI CURRENCY SYMBOL: BAHT",
    "E40 THAI CHARACTER: SARA E, SARA AE, SARA O, SARA AI MAIMUAN, SARA AI MAIMALAI, LAKKHANGYAO, MAIYAMOK",
    "E47 THAI CHARACTER: MAITAIKHU, MAI EK, MAI THO, MAI TRI, MAI CHATTAWA, THANTHAKHAT, NIKHAHIT, YAMAKKAN",
    "E4F THAI CHARACTER: FONGMAN; E50 THAI DIGIT: ZERO, ONE, TWO, THREE, FOUR, FIVE, SIX, SEVEN, EIGHT, NINE",
    "E5A THAI CHARACTER: ANGKHANKHU, KHOMUT; E81 LAO LETTER: KO, KHO SUNG; E84 LAO LETTER KHO: TAM",
    "E86 LAO LETTER: PALI GHA, NGO, CO, PALI CHA, SO TAM",
    "E8C LAO LETTER: PALI JHA, NYO, PALI NYA, PALI TTA, PALI TTHA, PALI DDA, PALI DDHA, PALI NNA, DO, TO",
    "E96 LAO LETTER: THO SUNG, THO TAM, PALI DHA, NO, BO, PO, PHO SUNG, FO TAM, PHO TAM, FO SUNG, PALI BHA",
    "EA1 LAO LETTER: MO, YO, LO LING; EA5 LAO LETTER LO: LOOT",
    "EA7 LAO LETTER: WO, SANSKRIT SHA, SANSKRIT SSA, SO SUNG, HO SUNG, PALI LLA, O, HO TAM; EAF LAO: ELLIPSIS",
    "EB0 LAO VOWEL SIGN: A, MAI KAN, AA, AM, I, II, Y, YY, U, UU",
    "EBA LAO: SIGN PALI VIRAMA, VOWEL SIGN MAI KON; EBC LAO SEMIVOWEL SIGN: LO, NYO",
    "EC0 LAO VOWEL SIGN: E, EI, O, AY, AI; EC6 LAO KO: LA; EC8 LAO TONE MAI: EK, THO, TI, CATAWA",
    "ECC LAO: CANCELLATION MARK, NIGGAHITA",
    "ED0 LAO DIGIT: ZERO, ONE, TWO, THREE, FOUR, FIVE, SIX, SEVEN, EIGHT, NINE; EDC LAO HO: NO, MO",
    "EDE LAO LETTER KHMU: GO, NYO; F00 TIBETAN SYLLABLE: OM",
    "F01 TIBETAN MARK GTER YIG MGO: TRUNCATED A, -UM RNAM BCAD MA, -UM GTER TSHEG MA",
    "F04 TIBETAN MARK: INITIAL YIG MGO MDUN MA, CLOSING YIG MGO SGAB MA, CARET YIG MGO PHUR SHAD MA",
    "F07 TIBETAN MARK: YIG MGO TSHEG SHAD MA, SBRUL SHAD, BSKUR YIG MGO, BKA- SHOG YIG MGO",
    "F0B TIBETAN MARK: INTERSYLLABIC TSHEG, DELIMITER TSHEG BSTAR, SHAD, NYIS SHAD, TSHEG SHAD",
    "F10 TIBETAN MARK: NYIS TSHEG SHAD, RIN CHEN SPUNGS SHAD, RGYA GRAM SHAD, CARET -DZUD RTAGS ME LONG CAN",
    "F14 TIBETAN MARK: GTER TSHEG; F15 TIBETAN LOGOTYPE SIGN: CHAD RTAGS, LHAG RTAGS",
    "F17 TIBETAN ASTROLOGICAL SIGN: SGRA GCAN -CHAR RTAGS, -KHYUD PA, SDONG TSHUGS",
    "F1A TIBETAN SIGN RDEL: DKAR GCIG, DKAR GNYIS, DKAR GSUM, NAG GCIG, NAG GNYIS, DKAR RDEL NAG",
    "F20 TIBETAN DIGIT: ZERO, ONE, TWO, THREE, FOUR, FIVE, SIX, SEVEN, EIGHT, NINE",
    "F2A TIBETAN DIGIT HALF: ONE, TWO, THREE, FOUR, FIVE, SIX, SEVEN, EIGHT, NINE, ZERO",
    "F34 TIBETAN MARK: BSDUS RTAGS, NGAS BZUNG NYI ZLA, CARET -DZUD RTAGS BZHI MIG CAN, NGAS BZUNG SGOR RTAGS",
    "F38 TIBETAN MARK: CHE MGO, TSA -PHRU, GUG RTAGS GYON, GUG RTAGS GYAS, ANG KHANG GYON, ANG KHANG GYAS",
    "F3E TIBETAN SIGN: YAR TSHES, MAR TSHES; F40 TIBETAN LETTER: KA, KHA, GA, GHA, NGA, CA, CHA, JA",
    "F49 TIBETAN LETTER: NYA, TTA, TTHA, DDA, DDHA, NNA, TA, THA, DA, DHA, NA, PA, PHA, BA, BHA, MA, TSA",
    "F5A TIBETAN LETTER: TSHA, DZA, DZHA, WA, ZHA, ZA, -A, YA, RA, LA, SHA, SSA, SA, HA, A, KSSA",
    "F6A TIBETAN LETTER: FIXED-FORM RA, KKA, RRA",
    "F71 TIBETAN VOWEL SIGN: AA, I, II, U, UU, VOCALIC R, VOCALIC RR, VOCALIC L, VOCALIC LL, E, EE, O, OO",
    "F7E TIBETAN: SIGN RJES SU NGA RO, SIGN RNAM BCAD, VOWEL SIGN REVERSED I, VOWEL SIGN REVERSED II",
    "F82 TIBETAN: SIGN NYI ZLA NAA DA, SIGN SNA LDAN, MARK HALANTA, MARK PALUTA",
    "F86 TIBETAN SIGN: LCI RTAGS, YANG RTAGS, LCE TSA CAN, MCHU CAN, GRU CAN RGYINGS, GRU MED RGYINGS",
    "F8C TIBETAN SIGN: INVERTED MCHU CAN",
    "F8D TIBETAN SUBJOINED SIGN: LCE TSA CAN, MCHU CAN, INVERTED MCHU CAN",
    "F90 TIBETAN SUBJOINED LETTER: KA, KHA, GA, GHA, NGA, CA, CHA, JA",
    "F99 TIBETAN SUBJOINED LETTER: NYA, TTA, TTHA, DDA, DDHA, NNA, TA, THA, DA, DHA, NA, PA, PHA, BA, BHA, MA",
    "FA9 TIBETAN SUBJOINED LETTER: TSA, TSHA, DZA, DZHA, WA, ZHA, ZA, -A, YA, RA, LA, SHA, SSA, SA, HA, A",
    "FB9 TIBETAN SUBJOINED LETTER: KSSA, FIXED-FORM WA, FIXED-FORM YA, FIXED-FORM RA",
    "FBE TIBETAN KU RU: KHA, KHA BZHI MIG CAN",
    "FC0 TIBETAN CANTILLATION SIGN: HEAVY BEAT, LIGHT BEAT, CANG TE-U, SBUB -CHAL",
    "FC4 TIBETAN SYMBOL: DRIL BU, RDO RJE, PADMA GDAN, RDO RJE RGYA GRAM, PHUR PA, NOR BU, NOR BU NYIS -KHYIL",
    "FCB TIBETAN SYMBOL: NOR BU GSUM -KHYIL, NOR BU BZHI -KHYIL; FCE TIBETAN SIGN RDEL NAG: RDEL DKAR, GSUM",
    "FD0 TIBETAN MARK: BSKA- SHOG GI MGO RGYAN, MNYAM YIG GI MGO RGYAN, NYIS TSHEG",
    "FD3 TIBETAN MARK: INITIAL BRDA RNYING YIG MGO MDUN MA, CLOSING BRDA RNYING YIG MGO SGAB MA",
    "FD5: RIGHT-FACING SVASTI SIGN, LEFT-FACING SVASTI SIGN, RIGHT-FACING SVASTI SIGN WITH DOTS",
    "FD8: LEFT-FACING SVASTI SIGN WITH DOTS; FD9 TIBETAN MARK: LEADING MCHAN RTAGS, TRAILING MCHAN RTAGS"]

end WireBridge.Text
