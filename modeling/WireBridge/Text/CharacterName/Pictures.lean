/-!
# Names of characters: notes, letters of mathematics and pictures

Data of Unicode 14, in the rows that `Text.CharacterName` explains.
-/

set_option autoImplicit false

namespace WireBridge.Text

/-- Musical notes, letters of mathematics, signed languages and pictographs. -/
def pictureNames : List String :=
  [
    "1D000 BYZANTINE MUSICAL SYMBOL: PSILI, DASEIA, PERISPOMENI, OXEIA EKFONITIKON, OXEIA DIPLI",
    "1D005 BYZANTINE MUSICAL SYMBOL: VAREIA EKFONITIKON, VAREIA DIPLI, KATHISTI, SYRMATIKI, PARAKLITIKI",
    "1D00A BYZANTINE MUSICAL SYMBOL: YPOKRISIS, YPOKRISIS DIPLI, KREMASTI, APESO EKFONITIKON, EXO EKFONITIKON",
    "1D00F BYZANTINE MUSICAL SYMBOL: TELEIA, KENTIMATA, APOSTROFOS, APOSTROFOS DIPLI, SYNEVMA, THITA",
    "1D015 BYZANTINE MUSICAL SYMBOL: OLIGON ARCHAION, GORGON ARCHAION, PSILON, CHAMILON, VATHY, ISON ARCHAION",
    "1D01B BYZANTINE MUSICAL SYMBOL: KENTIMA ARCHAION, KENTIMATA ARCHAION, SAXIMATA, PARICHON",
    "1D01F BYZANTINE MUSICAL SYMBOL: STAVROS APODEXIA, OXEIAI ARCHAION, VAREIAI ARCHAION, APODERMA ARCHAION",
    "1D023 BYZANTINE MUSICAL SYMBOL: APOTHEMA, KLASMA, REVMA, PIASMA ARCHAION, TINAGMA, ANATRICHISMA, SEISMA",
    "1D02A BYZANTINE MUSICAL SYMBOL: SYNAGMA ARCHAION, SYNAGMA META STAVROU, OYRANISMA ARCHAION, THEMA, LEMOI",
    "1D02F BYZANTINE MUSICAL SYMBOL: DYO, TRIA, TESSERA, KRATIMATA, APESO EXO NEO, FTHORA ARCHAION, IMIFTHORA",
    "1D036 BYZANTINE MUSICAL SYMBOL: TROMIKON ARCHAION, KATAVA TROMIKON, PELASTON, PSIFISTON, KONTEVMA",
    "1D03B BYZANTINE MUSICAL SYMBOL: CHOREVMA ARCHAION, RAPISMA, PARAKALESMA ARCHAION, PARAKLITIKI ARCHAION",
    "1D03F BYZANTINE MUSICAL SYMBOL: ICHADIN, NANA, PETASMA, KONTEVMA ALLO, TROMIKON ALLO, STRAGGISMATA",
    "1D045 BYZANTINE MUSICAL SYMBOL: GRONTHISMATA, ISON NEO, OLIGON NEO, OXEIA NEO, PETASTI, KOUFISMA",
    "1D04B BYZANTINE MUSICAL SYMBOL: PETASTOKOUFISMA, KRATIMOKOUFISMA, PELASTON NEO, KENTIMATA NEO ANO",
    "1D04F BYZANTINE MUSICAL SYMBOL: KENTIMA NEO ANO, YPSILI, APOSTROFOS NEO, APOSTROFOI SYNDESMOS NEO",
    "1D053 BYZANTINE MUSICAL SYMBOL: YPORROI, KRATIMOYPORROON, ELAFRON, CHAMILI, MIKRON ISON, VAREIA NEO",
    "1D059 BYZANTINE MUSICAL SYMBOL: PIASMA NEO, PSIFISTON NEO, OMALON, ANTIKENOMA, LYGISMA, PARAKLITIKI NEO",
    "1D05F BYZANTINE MUSICAL SYMBOL: PARAKALESMA NEO, ETERON PARAKALESMA, KYLISMA, ANTIKENOKYLISMA",
    "1D063 BYZANTINE MUSICAL SYMBOL: TROMIKON NEO, EKSTREPTON, SYNAGMA NEO, SYRMA, CHOREVMA NEO, EPEGERMA",
    "1D069 BYZANTINE MUSICAL SYMBOL: SEISMA NEO, XIRON KLASMA, TROMIKOPSIFISTON, PSIFISTOLYGISMA",
    "1D06D BYZANTINE MUSICAL SYMBOL: TROMIKOLYGISMA, TROMIKOPARAKALESMA, PSIFISTOPARAKALESMA, TROMIKOSYNAGMA",
    "1D071 BYZANTINE MUSICAL SYMBOL: PSIFISTOSYNAGMA, GORGOSYNTHETON, ARGOSYNTHETON, ETERON ARGOSYNTHETON",
    "1D075 BYZANTINE MUSICAL SYMBOL: OYRANISMA NEO, THEMATISMOS ESO, THEMATISMOS EXO, THEMA APLOUN",
    "1D079 BYZANTINE MUSICAL SYMBOL: THES KAI APOTHES, KATAVASMA, ENDOFONON, YFEN KATO, YFEN ANO, STAVROS",
    "1D07F BYZANTINE MUSICAL SYMBOL: KLASMA ANO, DIPLI ARCHAION, KRATIMA ARCHAION, KRATIMA ALLO, KRATIMA NEO",
    "1D084 BYZANTINE MUSICAL SYMBOL: APODERMA NEO, APLI, DIPLI, TRIPLI, TETRAPLI, KORONIS",
    "1D08A BYZANTINE MUSICAL SYMBOL: LEIMMA ENOS CHRONOU, LEIMMA DYO CHRONON, LEIMMA TRION CHRONON",
    "1D08D BYZANTINE MUSICAL SYMBOL: LEIMMA TESSARON CHRONON, LEIMMA IMISEOS CHRONOU, GORGON NEO ANO",
    "1D090 BYZANTINE MUSICAL SYMBOL: GORGON PARESTIGMENON ARISTERA, GORGON PARESTIGMENON DEXIA, DIGORGON",
    "1D093 BYZANTINE MUSICAL SYMBOL: DIGORGON PARESTIGMENON ARISTERA KATO",
    "1D094 BYZANTINE MUSICAL SYMBOL: DIGORGON PARESTIGMENON ARISTERA ANO, DIGORGON PARESTIGMENON DEXIA",
    "1D096 BYZANTINE MUSICAL SYMBOL: TRIGORGON, ARGON, IMIDIARGON, DIARGON",
    "1D09A BYZANTINE MUSICAL SYMBOL AGOGI: POLI ARGI, ARGOTERI, ARGI, METRIA, MESI, GORGI, GORGOTERI",
    "1D0A1 BYZANTINE MUSICAL SYMBOL AGOGI: POLI GORGI",
    "1D0A2 BYZANTINE MUSICAL SYMBOL MARTYRIA: PROTOS ICHOS, ALLI PROTOS ICHOS, DEYTEROS ICHOS",
    "1D0A5 BYZANTINE MUSICAL SYMBOL MARTYRIA: ALLI DEYTEROS ICHOS, TRITOS ICHOS, TRIFONIAS, TETARTOS ICHOS",
    "1D0A9 BYZANTINE MUSICAL SYMBOL MARTYRIA: TETARTOS LEGETOS ICHOS, LEGETOS ICHOS, PLAGIOS ICHOS",
    "1D0AC BYZANTINE MUSICAL SYMBOL: ISAKIA TELOUS ICHIMATOS, APOSTROFOI TELOUS ICHIMATOS",
    "1D0AE BYZANTINE MUSICAL SYMBOL: FANEROSIS TETRAFONIAS, FANEROSIS MONOFONIAS, FANEROSIS DIFONIAS",
    "1D0B1 BYZANTINE MUSICAL SYMBOL: MARTYRIA VARYS ICHOS, MARTYRIA PROTOVARYS ICHOS",
    "1D0B3 BYZANTINE MUSICAL SYMBOL: MARTYRIA PLAGIOS TETARTOS ICHOS, GORTHMIKON N APLOUN",
    "1D0B5 BYZANTINE MUSICAL SYMBOL: GORTHMIKON N DIPLOUN, ENARXIS KAI FTHORA VOU, IMIFONON, IMIFTHORON",
    "1D0B9 BYZANTINE MUSICAL SYMBOL FTHORA: ARCHAION DEYTEROU ICHOU, DIATONIKI PA, DIATONIKI NANA, NAOS ICHOS",
    "1D0BD BYZANTINE MUSICAL SYMBOL FTHORA: DIATONIKI DI, SKLIRON DIATONON DI, DIATONIKI KE, DIATONIKI ZO",
    "1D0C1 BYZANTINE MUSICAL SYMBOL FTHORA: DIATONIKI NI KATO, DIATONIKI NI ANO, MALAKON CHROMA DIFONIAS",
    "1D0C4 BYZANTINE MUSICAL SYMBOL FTHORA: MALAKON CHROMA MONOFONIAS",
    "1D0C5 BYZANTINE MUSICAL SYMBOL: FHTORA SKLIRON CHROMA VASIS, FTHORA SKLIRON CHROMA SYNAFI, FTHORA NENANO",
    "1D0C8 BYZANTINE MUSICAL SYMBOL: CHROA ZYGOS, CHROA KLITON, CHROA SPATHI, FTHORA I YFESIS TETARTIMORION",
    "1D0CC BYZANTINE MUSICAL SYMBOL: FTHORA ENARMONIOS ANTIFONIA, YFESIS TRITIMORION, DIESIS TRITIMORION",
    "1D0CF BYZANTINE MUSICAL SYMBOL: DIESIS TETARTIMORION, DIESIS APLI DYO DODEKATA",
    "1D0D1 BYZANTINE MUSICAL SYMBOL: DIESIS MONOGRAMMOS TESSERA DODEKATA, DIESIS DIGRAMMOS EX DODEKATA",
    "1D0D3 BYZANTINE MUSICAL SYMBOL: DIESIS TRIGRAMMOS OKTO DODEKATA, YFESIS APLI DYO DODEKATA",
    "1D0D5 BYZANTINE MUSICAL SYMBOL: YFESIS MONOGRAMMOS TESSERA DODEKATA, YFESIS DIGRAMMOS EX DODEKATA",
    "1D0D7 BYZANTINE MUSICAL SYMBOL: YFESIS TRIGRAMMOS OKTO DODEKATA, GENIKI DIESIS, GENIKI YFESIS",
    "1D0DA BYZANTINE MUSICAL SYMBOL: DIASTOLI APLI MIKRI, DIASTOLI APLI MEGALI, DIASTOLI DIPLI",
    "1D0DD BYZANTINE MUSICAL SYMBOL: DIASTOLI THESEOS, SIMANSIS THESEOS, SIMANSIS THESEOS DISIMOU",
    "1D0E0 BYZANTINE MUSICAL SYMBOL: SIMANSIS THESEOS TRISIMOU, SIMANSIS THESEOS TETRASIMOU, SIMANSIS ARSEOS",
    "1D0E3 BYZANTINE MUSICAL SYMBOL: SIMANSIS ARSEOS DISIMOU, SIMANSIS ARSEOS TRISIMOU",
    "1D0E5 BYZANTINE MUSICAL SYMBOL: SIMANSIS ARSEOS TETRASIMOU, DIGRAMMA GG, DIFTOGGOS OU, STIGMA",
    "1D0E9 BYZANTINE MUSICAL SYMBOL: ARKTIKO PA, ARKTIKO VOU, ARKTIKO GA, ARKTIKO DI, ARKTIKO KE, ARKTIKO ZO",
    "1D0EF BYZANTINE MUSICAL SYMBOL: ARKTIKO NI, KENTIMATA NEO MESO, KENTIMA NEO MESO, KENTIMATA NEO KATO",
    "1D0F3 BYZANTINE MUSICAL SYMBOL: KENTIMA NEO KATO, KLASMA KATO, GORGON NEO KATO",
    "1D100 MUSICAL SYMBOL: SINGLE BARLINE, DOUBLE BARLINE, FINAL BARLINE, REVERSE FINAL BARLINE",
    "1D104 MUSICAL SYMBOL: DASHED BARLINE, SHORT BARLINE, LEFT REPEAT SIGN, RIGHT REPEAT SIGN, REPEAT DOTS",
    "1D109 MUSICAL SYMBOL: DAL SEGNO, DA CAPO, SEGNO, CODA, REPEATED FIGURE-1, REPEATED FIGURE-2",
    "1D10F MUSICAL SYMBOL: REPEATED FIGURE-3, FERMATA, FERMATA BELOW, BREATH MARK, CAESURA, BRACE, BRACKET",
    "1D116 MUSICAL SYMBOL: ONE-LINE STAFF, TWO-LINE STAFF, THREE-LINE STAFF, FOUR-LINE STAFF, FIVE-LINE STAFF",
    "1D11B MUSICAL SYMBOL: SIX-LINE STAFF, SIX-STRING FRETBOARD, FOUR-STRING FRETBOARD, G CLEF",
    "1D11F MUSICAL SYMBOL: G CLEF OTTAVA ALTA, G CLEF OTTAVA BASSA, C CLEF, F CLEF, F CLEF OTTAVA ALTA",
    "1D124 MUSICAL SYMBOL: F CLEF OTTAVA BASSA, DRUM CLEF-1, DRUM CLEF-2",
    "1D129 MUSICAL SYMBOL: MULTIPLE MEASURE REST, DOUBLE SHARP, DOUBLE FLAT, FLAT UP, FLAT DOWN, NATURAL UP",
    "1D12F MUSICAL SYMBOL: NATURAL DOWN, SHARP UP, SHARP DOWN, QUARTER TONE SHARP, QUARTER TONE FLAT",
    "1D134 MUSICAL SYMBOL: COMMON TIME, CUT TIME, OTTAVA ALTA, OTTAVA BASSA, QUINDICESIMA ALTA",
    "1D139 MUSICAL SYMBOL: QUINDICESIMA BASSA, MULTI REST, WHOLE REST, HALF REST, QUARTER REST, EIGHTH REST",
    "1D13F MUSICAL SYMBOL: SIXTEENTH REST, THIRTY-SECOND REST, SIXTY-FOURTH REST",
    "1D142 MUSICAL SYMBOL: ONE HUNDRED TWENTY-EIGHTH REST, X NOTEHEAD, PLUS NOTEHEAD, CIRCLE X NOTEHEAD",
    "1D146 MUSICAL SYMBOL: SQUARE NOTEHEAD WHITE, SQUARE NOTEHEAD BLACK",
    "1D148 MUSICAL SYMBOL TRIANGLE NOTEHEAD: UP WHITE, UP BLACK, LEFT WHITE, LEFT BLACK, RIGHT WHITE",
    "1D14D MUSICAL SYMBOL TRIANGLE NOTEHEAD: RIGHT BLACK, DOWN WHITE, DOWN BLACK, UP RIGHT WHITE",
    "1D151 MUSICAL SYMBOL TRIANGLE NOTEHEAD: UP RIGHT BLACK",
    "1D152 MUSICAL SYMBOL: MOON NOTEHEAD WHITE, MOON NOTEHEAD BLACK, TRIANGLE-ROUND NOTEHEAD DOWN WHITE",
    "1D155 MUSICAL SYMBOL: TRIANGLE-ROUND NOTEHEAD DOWN BLACK, PARENTHESIS NOTEHEAD, VOID NOTEHEAD",
    "1D158 MUSICAL SYMBOL: NOTEHEAD BLACK, NULL NOTEHEAD, CLUSTER NOTEHEAD WHITE, CLUSTER NOTEHEAD BLACK",
    "1D15C MUSICAL SYMBOL: BREVE, WHOLE NOTE, HALF NOTE, QUARTER NOTE, EIGHTH NOTE, SIXTEENTH NOTE",
    "1D162 MUSICAL SYMBOL: THIRTY-SECOND NOTE, SIXTY-FOURTH NOTE, ONE HUNDRED TWENTY-EIGHTH NOTE",
    "1D165 MUSICAL SYMBOL COMBINING: STEM, SPRECHGESANG STEM, TREMOLO-1, TREMOLO-2, TREMOLO-3",
    "1D16A MUSICAL SYMBOL FINGERED: TREMOLO-1, TREMOLO-2, TREMOLO-3",
    "1D16D MUSICAL SYMBOL COMBINING: AUGMENTATION DOT, FLAG-1, FLAG-2, FLAG-3, FLAG-4, FLAG-5",
    "1D173 MUSICAL SYMBOL: BEGIN BEAM, END BEAM, BEGIN TIE, END TIE, BEGIN SLUR, END SLUR, BEGIN PHRASE",
    "1D17A MUSICAL SYMBOL: END PHRASE",
    "1D17B MUSICAL SYMBOL COMBINING: ACCENT, STACCATO, TENUTO, STACCATISSIMO, MARCATO, MARCATO-STACCATO",
    "1D181 MUSICAL SYMBOL COMBINING: ACCENT-STACCATO, LOURE; 1D183 MUSICAL SYMBOL ARPEGGIATO: UP, DOWN",
    "1D185 MUSICAL SYMBOL COMBINING: DOIT, RIP, FLIP, SMEAR, BEND, DOUBLE TONGUE, TRIPLE TONGUE",
    "1D18C MUSICAL SYMBOL: RINFORZANDO, SUBITO, Z, PIANO, MEZZO, FORTE, CRESCENDO, DECRESCENDO",
    "1D194 MUSICAL SYMBOL: GRACE NOTE SLASH, GRACE NOTE NO SLASH, TR, TURN, INVERTED TURN, TURN SLASH",
    "1D19A MUSICAL SYMBOL: TURN UP",
    "1D19B MUSICAL SYMBOL ORNAMENT: STROKE-1, STROKE-2, STROKE-3, STROKE-4, STROKE-5, STROKE-6, STROKE-7",
    "1D1A2 MUSICAL SYMBOL ORNAMENT: STROKE-8, STROKE-9, STROKE-10, STROKE-11",
    "1D1A6 MUSICAL SYMBOL: HAUPTSTIMME, NEBENSTIMME, END OF STIMME, DEGREE SLASH, COMBINING DOWN BOW",
    "1D1AB MUSICAL SYMBOL: COMBINING UP BOW, COMBINING HARMONIC, COMBINING SNAP PIZZICATO, PEDAL MARK",
    "1D1AF MUSICAL SYMBOL: PEDAL UP MARK, HALF PEDAL MARK, GLISSANDO UP, GLISSANDO DOWN, WITH FINGERNAILS",
    "1D1B4 MUSICAL SYMBOL: DAMP, DAMP ALL, MAXIMA, LONGA, BREVIS, SEMIBREVIS WHITE, SEMIBREVIS BLACK, MINIMA",
    "1D1BC MUSICAL SYMBOL: MINIMA BLACK, SEMIMINIMA WHITE, SEMIMINIMA BLACK, FUSA WHITE, FUSA BLACK",
    "1D1C1 MUSICAL SYMBOL: LONGA PERFECTA REST, LONGA IMPERFECTA REST, BREVIS REST, SEMIBREVIS REST",
    "1D1C5 MUSICAL SYMBOL: MINIMA REST, SEMIMINIMA REST",
    "1D1C7 MUSICAL SYMBOL TEMPUS PERFECTUM CUM PROLATIONE: PERFECTA, IMPERFECTA, PERFECTA DIMINUTION-1",
    "1D1CA MUSICAL SYMBOL TEMPUS IMPERFECTUM CUM PROLATIONE: PERFECTA, IMPERFECTA, IMPERFECTA DIMINUTION-1",
    "1D1CD MUSICAL SYMBOL TEMPUS IMPERFECTUM CUM PROLATIONE: IMPERFECTA DIMINUTION-2, IMPERFECTA DIMINUTION-3",
    "1D1CF MUSICAL SYMBOL: CROIX, GREGORIAN C CLEF, GREGORIAN F CLEF, SQUARE B, VIRGA, PODATUS, CLIVIS",
    "1D1D6 MUSICAL SYMBOL: SCANDICUS, CLIMACUS, TORCULUS, PORRECTUS, PORRECTUS FLEXUS, SCANDICUS FLEXUS",
    "1D1DC MUSICAL SYMBOL: TORCULUS RESUPINUS, PES SUBPUNCTIS",
    "1D1DE MUSICAL SYMBOL KIEVAN: C CLEF, END OF PIECE, FINAL NOTE, RECITATIVE MARK, WHOLE NOTE, HALF NOTE",
    "1D1E4 MUSICAL SYMBOL KIEVAN: QUARTER NOTE STEM DOWN, QUARTER NOTE STEM UP, EIGHTH NOTE STEM DOWN",
    "1D1E7 MUSICAL SYMBOL KIEVAN: EIGHTH NOTE STEM UP, FLAT SIGN; 1D1E9 MUSICAL SYMBOL: SORI, KORON",
    "1D200 GREEK VOCAL NOTATION: SYMBOL-1, SYMBOL-2, SYMBOL-3, SYMBOL-4, SYMBOL-5, SYMBOL-6, SYMBOL-7",
    "1D207 GREEK VOCAL NOTATION: SYMBOL-8, SYMBOL-9, SYMBOL-10, SYMBOL-11, SYMBOL-12, SYMBOL-13, SYMBOL-14",
    "1D20E GREEK VOCAL NOTATION: SYMBOL-15, SYMBOL-16, SYMBOL-17, SYMBOL-18, SYMBOL-19, SYMBOL-20, SYMBOL-21",
    "1D215 GREEK VOCAL NOTATION: SYMBOL-22, SYMBOL-23, SYMBOL-24, SYMBOL-50, SYMBOL-51, SYMBOL-52, SYMBOL-53",
    "1D21C GREEK VOCAL NOTATION: SYMBOL-54",
    "1D21D GREEK INSTRUMENTAL NOTATION: SYMBOL-1, SYMBOL-2, SYMBOL-4, SYMBOL-5, SYMBOL-7, SYMBOL-8, SYMBOL-11",
    "1D224 GREEK INSTRUMENTAL NOTATION: SYMBOL-12, SYMBOL-13, SYMBOL-14, SYMBOL-17, SYMBOL-18, SYMBOL-19",
    "1D22A GREEK INSTRUMENTAL NOTATION: SYMBOL-23, SYMBOL-24, SYMBOL-25, SYMBOL-26, SYMBOL-27, SYMBOL-29",
    "1D230 GREEK INSTRUMENTAL NOTATION: SYMBOL-30, SYMBOL-32, SYMBOL-36, SYMBOL-37, SYMBOL-38, SYMBOL-39",
    "1D236 GREEK INSTRUMENTAL NOTATION: SYMBOL-40, SYMBOL-42, SYMBOL-43, SYMBOL-45, SYMBOL-47, SYMBOL-48",
    "1D23C GREEK INSTRUMENTAL NOTATION: SYMBOL-49, SYMBOL-50, SYMBOL-51, SYMBOL-52, SYMBOL-53, SYMBOL-54",
    "1D242 COMBINING GREEK MUSICAL: TRISEME, TETRASEME, PENTASEME; 1D245 GREEK MUSICAL: LEIMMA",
    "1D2E0 MAYAN NUMERAL: ZERO, ONE, TWO, THREE, FOUR, FIVE, SIX, SEVEN, EIGHT, NINE, TEN, ELEVEN, TWELVE",
    "1D2ED MAYAN NUMERAL: THIRTEEN, FOURTEEN, FIFTEEN, SIXTEEN, SEVENTEEN, EIGHTEEN, NINETEEN",
    "1D300 MONOGRAM FOR: EARTH",
    "1D301 DIGRAM FOR: HEAVENLY EARTH, HUMAN EARTH, EARTHLY HEAVEN, EARTHLY HUMAN, EARTH",
    "1D306 TETRAGRAM FOR: CENTRE, FULL CIRCLE, MIRED, BARRIER, KEEPING SMALL, CONTRARIETY, ASCENT, OPPOSITION",
    "1D30E TETRAGRAM FOR: BRANCHING OUT, DEFECTIVENESS OR DISTORTION, DIVERGENCE, YOUTHFULNESS, INCREASE",
    "1D313 TETRAGRAM FOR: PENETRATION, REACH, CONTACT, HOLDING BACK, WAITING, FOLLOWING, ADVANCE, RELEASE",
    "1D31B TETRAGRAM FOR: RESISTANCE, EASE, JOY, CONTENTION, ENDEAVOUR, DUTIES, CHANGE, DECISIVENESS",
    "1D323 TETRAGRAM FOR: BOLD RESOLUTION, PACKING, LEGION, CLOSENESS, KINSHIP, GATHERING, STRENGTH, PURITY",
    "1D32B TETRAGRAM FOR: FULLNESS, RESIDENCE, LAW OR MODEL, RESPONSE, GOING TO MEET, ENCOUNTERS, STOVE",
    "1D332 TETRAGRAM FOR: GREATNESS, ENLARGEMENT, PATTERN, RITUAL, FLIGHT, VASTNESS OR WASTING, CONSTANCY",
    "1D339 TETRAGRAM FOR: MEASURE, ETERNITY, UNITY, DIMINISHMENT, CLOSED MOUTH, GUARDEDNESS, GATHERING IN",
    "1D340 TETRAGRAM FOR: MASSING, ACCUMULATION, EMBELLISHMENT, DOUBT, WATCH, SINKING, INNER, DEPARTURE",
    "1D348 TETRAGRAM FOR: DARKENING, DIMMING, EXHAUSTION, SEVERANCE, STOPPAGE, HARDNESS, COMPLETION, CLOSURE",
    "1D350 TETRAGRAM FOR: FAILURE, AGGRAVATION, COMPLIANCE, ON THE VERGE, DIFFICULTIES, LABOURING, FOSTERING",
    "1D360 COUNTING ROD UNIT DIGIT: ONE, TWO, THREE, FOUR, FIVE, SIX, SEVEN, EIGHT, NINE",
    "1D369 COUNTING ROD TENS DIGIT: ONE, TWO, THREE, FOUR, FIVE, SIX, SEVEN, EIGHT, NINE",
    "1D372 IDEOGRAPHIC TALLY MARK: ONE, TWO, THREE, FOUR, FIVE; 1D377 TALLY MARK: ONE, FIVE",
    "1D400 MATHEMATICAL BOLD CAPITAL: A, B, C, D, E, F, G, H, I, J, K, L, M, N, O, P, Q, R, S, T, U, V, W, X",
    "1D418 MATHEMATICAL BOLD CAPITAL: Y, Z",
    "1D41A MATHEMATICAL BOLD SMALL: A, B, C, D, E, F, G, H, I, J, K, L, M, N, O, P, Q, R, S, T, U, V, W, X, Y",
    "1D433 MATHEMATICAL BOLD SMALL: Z",
    "1D434 MATHEMATICAL ITALIC CAPITAL: A, B, C, D, E, F, G, H, I, J, K, L, M, N, O, P, Q, R, S, T, U, V, W",
    "1D44B MATHEMATICAL ITALIC CAPITAL: X, Y, Z; 1D44E MATHEMATICAL ITALIC SMALL: A, B, C, D, E, F, G",
    "1D456 MATHEMATICAL ITALIC SMALL: I, J, K, L, M, N, O, P, Q, R, S, T, U, V, W, X, Y, Z",
    "1D468 MATHEMATICAL BOLD ITALIC CAPITAL: A, B, C, D, E, F, G, H, I, J, K, L, M, N, O, P, Q, R, S, T, U, V",
    "1D47E MATHEMATICAL BOLD ITALIC CAPITAL: W, X, Y, Z",
    "1D482 MATHEMATICAL BOLD ITALIC SMALL: A, B, C, D, E, F, G, H, I, J, K, L, M, N, O, P, Q, R, S, T, U, V",
    "1D498 MATHEMATICAL BOLD ITALIC SMALL: W, X, Y, Z; 1D49C MATHEMATICAL SCRIPT CAPITAL: A",
    "1D49E MATHEMATICAL SCRIPT CAPITAL: C, D; 1D4A2 MATHEMATICAL SCRIPT CAPITAL: G",
    "1D4A5 MATHEMATICAL SCRIPT CAPITAL: J, K; 1D4A9 MATHEMATICAL SCRIPT CAPITAL: N, O, P, Q",
    "1D4AE MATHEMATICAL SCRIPT CAPITAL: S, T, U, V, W, X, Y, Z; 1D4B6 MATHEMATICAL SCRIPT SMALL: A, B, C, D",
    "1D4BB MATHEMATICAL SCRIPT SMALL: F; 1D4BD MATHEMATICAL SCRIPT SMALL: H, I, J, K, L, M, N",
    "1D4C5 MATHEMATICAL SCRIPT SMALL: P, Q, R, S, T, U, V, W, X, Y, Z",
    "1D4D0 MATHEMATICAL BOLD SCRIPT CAPITAL: A, B, C, D, E, F, G, H, I, J, K, L, M, N, O, P, Q, R, S, T, U, V",
    "1D4E6 MATHEMATICAL BOLD SCRIPT CAPITAL: W, X, Y, Z",
    "1D4EA MATHEMATICAL BOLD SCRIPT SMALL: A, B, C, D, E, F, G, H, I, J, K, L, M, N, O, P, Q, R, S, T, U, V",
    "1D500 MATHEMATICAL BOLD SCRIPT SMALL: W, X, Y, Z; 1D504 MATHEMATICAL FRAKTUR CAPITAL: A, B",
    "1D507 MATHEMATICAL FRAKTUR CAPITAL: D, E, F, G",
    "1D50D MATHEMATICAL FRAKTUR CAPITAL: J, K, L, M, N, O, P, Q",
    "1D516 MATHEMATICAL FRAKTUR CAPITAL: S, T, U, V, W, X, Y",
    "1D51E MATHEMATICAL FRAKTUR SMALL: A, B, C, D, E, F, G, H, I, J, K, L, M, N, O, P, Q, R, S, T, U, V, W, X",
    "1D536 MATHEMATICAL FRAKTUR SMALL: Y, Z; 1D538 MATHEMATICAL DOUBLE-STRUCK CAPITAL: A, B",
    "1D53B MATHEMATICAL DOUBLE-STRUCK CAPITAL: D, E, F, G",
    "1D540 MATHEMATICAL DOUBLE-STRUCK CAPITAL: I, J, K, L, M; 1D546 MATHEMATICAL DOUBLE-STRUCK CAPITAL: O",
    "1D54A MATHEMATICAL DOUBLE-STRUCK CAPITAL: S, T, U, V, W, X, Y",
    "1D552 MATHEMATICAL DOUBLE-STRUCK SMALL: A, B, C, D, E, F, G, H, I, J, K, L, M, N, O, P, Q, R, S, T, U, V",
    "1D568 MATHEMATICAL DOUBLE-STRUCK SMALL: W, X, Y, Z",
    "1D56C MATHEMATICAL BOLD FRAKTUR CAPITAL: A, B, C, D, E, F, G, H, I, J, K, L, M, N, O, P, Q, R, S, T, U",
    "1D581 MATHEMATICAL BOLD FRAKTUR CAPITAL: V, W, X, Y, Z",
    "1D586 MATHEMATICAL BOLD FRAKTUR SMALL: A, B, C, D, E, F, G, H, I, J, K, L, M, N, O, P, Q, R, S, T, U, V",
    "1D59C MATHEMATICAL BOLD FRAKTUR SMALL: W, X, Y, Z",
    "1D5A0 MATHEMATICAL SANS-SERIF CAPITAL: A, B, C, D, E, F, G, H, I, J, K, L, M, N, O, P, Q, R, S, T, U, V",
    "1D5B6 MATHEMATICAL SANS-SERIF CAPITAL: W, X, Y, Z",
    "1D5BA MATHEMATICAL SANS-SERIF SMALL: A, B, C, D, E, F, G, H, I, J, K, L, M, N, O, P, Q, R, S, T, U, V, W",
    "1D5D1 MATHEMATICAL SANS-SERIF SMALL: X, Y, Z",
    "1D5D4 MATHEMATICAL SANS-SERIF BOLD CAPITAL: A, B, C, D, E, F, G, H, I, J, K, L, M, N, O, P, Q, R, S, T",
    "1D5E8 MATHEMATICAL SANS-SERIF BOLD CAPITAL: U, V, W, X, Y, Z",
    "1D5EE MATHEMATICAL SANS-SERIF BOLD SMALL: A, B, C, D, E, F, G, H, I, J, K, L, M, N, O, P, Q, R, S, T, U",
    "1D603 MATHEMATICAL SANS-SERIF BOLD SMALL: V, W, X, Y, Z",
    "1D608 MATHEMATICAL SANS-SERIF ITALIC CAPITAL: A, B, C, D, E, F, G, H, I, J, K, L, M, N, O, P, Q, R, S, T",
    "1D61C MATHEMATICAL SANS-SERIF ITALIC CAPITAL: U, V, W, X, Y, Z",
    "1D622 MATHEMATICAL SANS-SERIF ITALIC SMALL: A, B, C, D, E, F, G, H, I, J, K, L, M, N, O, P, Q, R, S, T",
    "1D636 MATHEMATICAL SANS-SERIF ITALIC SMALL: U, V, W, X, Y, Z",
    "1D63C MATHEMATICAL SANS-SERIF BOLD ITALIC CAPITAL: A, B, C, D, E, F, G, H, I, J, K, L, M, N, O, P, Q, R",
    "1D64E MATHEMATICAL SANS-SERIF BOLD ITALIC CAPITAL: S, T, U, V, W, X, Y, Z",
    "1D656 MATHEMATICAL SANS-SERIF BOLD ITALIC SMALL: A, B, C, D, E, F, G, H, I, J, K, L, M, N, O, P, Q, R, S",
    "1D669 MATHEMATICAL SANS-SERIF BOLD ITALIC SMALL: T, U, V, W, X, Y, Z",
    "1D670 MATHEMATICAL MONOSPACE CAPITAL: A, B, C, D, E, F, G, H, I, J, K, L, M, N, O, P, Q, R, S, T, U, V",
    "1D686 MATHEMATICAL MONOSPACE CAPITAL: W, X, Y, Z",
    "1D68A MATHEMATICAL MONOSPACE SMALL: A, B, C, D, E, F, G, H, I, J, K, L, M, N, O, P, Q, R, S, T, U, V, W",
    "1D6A1 MATHEMATICAL MONOSPACE SMALL: X, Y, Z; 1D6A4 MATHEMATICAL ITALIC SMALL DOTLESS: I, J",
    "1D6A8 MATHEMATICAL BOLD CAPITAL: ALPHA, BETA, GAMMA, DELTA, EPSILON, ZETA, ETA, THETA, IOTA, KAPPA",
    "1D6B2 MATHEMATICAL BOLD CAPITAL: LAMDA, MU, NU, XI, OMICRON, PI, RHO, THETA SYMBOL, SIGMA, TAU, UPSILON",
    "1D6BD MATHEMATICAL BOLD CAPITAL: PHI, CHI, PSI, OMEGA; 1D6C1 MATHEMATICAL BOLD: NABLA",
    "1D6C2 MATHEMATICAL BOLD SMALL: ALPHA, BETA, GAMMA, DELTA, EPSILON, ZETA, ETA, THETA, IOTA, KAPPA, LAMDA",
    "1D6CD MATHEMATICAL BOLD SMALL: MU, NU, XI, OMICRON, PI, RHO, FINAL SIGMA, SIGMA, TAU, UPSILON, PHI, CHI",
    "1D6D9 MATHEMATICAL BOLD SMALL: PSI, OMEGA",
    "1D6DB MATHEMATICAL BOLD: PARTIAL DIFFERENTIAL, EPSILON SYMBOL, THETA SYMBOL, KAPPA SYMBOL, PHI SYMBOL",
    "1D6E0 MATHEMATICAL BOLD: RHO SYMBOL, PI SYMBOL",
    "1D6E2 MATHEMATICAL ITALIC CAPITAL: ALPHA, BETA, GAMMA, DELTA, EPSILON, ZETA, ETA, THETA, IOTA, KAPPA",
    "1D6EC MATHEMATICAL ITALIC CAPITAL: LAMDA, MU, NU, XI, OMICRON, PI, RHO, THETA SYMBOL, SIGMA, TAU",
    "1D6F6 MATHEMATICAL ITALIC CAPITAL: UPSILON, PHI, CHI, PSI, OMEGA; 1D6FB MATHEMATICAL ITALIC: NABLA",
    "1D6FC MATHEMATICAL ITALIC SMALL: ALPHA, BETA, GAMMA, DELTA, EPSILON, ZETA, ETA, THETA, IOTA, KAPPA",
    "1D706 MATHEMATICAL ITALIC SMALL: LAMDA, MU, NU, XI, OMICRON, PI, RHO, FINAL SIGMA, SIGMA, TAU, UPSILON",
    "1D711 MATHEMATICAL ITALIC SMALL: PHI, CHI, PSI, OMEGA",
    "1D715 MATHEMATICAL ITALIC: PARTIAL DIFFERENTIAL, EPSILON SYMBOL, THETA SYMBOL, KAPPA SYMBOL, PHI SYMBOL",
    "1D71A MATHEMATICAL ITALIC: RHO SYMBOL, PI SYMBOL",
    "1D71C MATHEMATICAL BOLD ITALIC CAPITAL: ALPHA, BETA, GAMMA, DELTA, EPSILON, ZETA, ETA, THETA, IOTA",
    "1D725 MATHEMATICAL BOLD ITALIC CAPITAL: KAPPA, LAMDA, MU, NU, XI, OMICRON, PI, RHO, THETA SYMBOL, SIGMA",
    "1D72F MATHEMATICAL BOLD ITALIC CAPITAL: TAU, UPSILON, PHI, CHI, PSI, OMEGA",
    "1D735 MATHEMATICAL BOLD ITALIC: NABLA",
    "1D736 MATHEMATICAL BOLD ITALIC SMALL: ALPHA, BETA, GAMMA, DELTA, EPSILON, ZETA, ETA, THETA, IOTA, KAPPA",
    "1D740 MATHEMATICAL BOLD ITALIC SMALL: LAMDA, MU, NU, XI, OMICRON, PI, RHO, FINAL SIGMA, SIGMA, TAU",
    "1D74A MATHEMATICAL BOLD ITALIC SMALL: UPSILON, PHI, CHI, PSI, OMEGA",
    "1D74F MATHEMATICAL BOLD ITALIC: PARTIAL DIFFERENTIAL, EPSILON SYMBOL, THETA SYMBOL, KAPPA SYMBOL",
    "1D753 MATHEMATICAL BOLD ITALIC: PHI SYMBOL, RHO SYMBOL, PI SYMBOL",
    "1D756 MATHEMATICAL SANS-SERIF BOLD CAPITAL: ALPHA, BETA, GAMMA, DELTA, EPSILON, ZETA, ETA, THETA, IOTA",
    "1D75F MATHEMATICAL SANS-SERIF BOLD CAPITAL: KAPPA, LAMDA, MU, NU, XI, OMICRON, PI, RHO, THETA SYMBOL",
    "1D768 MATHEMATICAL SANS-SERIF BOLD CAPITAL: SIGMA, TAU, UPSILON, PHI, CHI, PSI, OMEGA",
    "1D76F MATHEMATICAL SANS-SERIF BOLD: NABLA",
    "1D770 MATHEMATICAL SANS-SERIF BOLD SMALL: ALPHA, BETA, GAMMA, DELTA, EPSILON, ZETA, ETA, THETA, IOTA",
    "1D779 MATHEMATICAL SANS-SERIF BOLD SMALL: KAPPA, LAMDA, MU, NU, XI, OMICRON, PI, RHO, FINAL SIGMA, SIGMA",
    "1D783 MATHEMATICAL SANS-SERIF BOLD SMALL: TAU, UPSILON, PHI, CHI, PSI, OMEGA",
    "1D789 MATHEMATICAL SANS-SERIF BOLD: PARTIAL DIFFERENTIAL, EPSILON SYMBOL, THETA SYMBOL, KAPPA SYMBOL",
    "1D78D MATHEMATICAL SANS-SERIF BOLD: PHI SYMBOL, RHO SYMBOL, PI SYMBOL",
    "1D790 MATHEMATICAL SANS-SERIF BOLD ITALIC CAPITAL: ALPHA, BETA, GAMMA, DELTA, EPSILON, ZETA, ETA, THETA",
    "1D798 MATHEMATICAL SANS-SERIF BOLD ITALIC CAPITAL: IOTA, KAPPA, LAMDA, MU, NU, XI, OMICRON, PI, RHO",
    "1D7A1 MATHEMATICAL SANS-SERIF BOLD ITALIC CAPITAL: THETA SYMBOL, SIGMA, TAU, UPSILON, PHI, CHI, PSI",
    "1D7A8 MATHEMATICAL SANS-SERIF BOLD ITALIC CAPITAL: OMEGA",
    "1D7A9 MATHEMATICAL SANS-SERIF BOLD ITALIC: NABLA",
    "1D7AA MATHEMATICAL SANS-SERIF BOLD ITALIC SMALL: ALPHA, BETA, GAMMA, DELTA, EPSILON, ZETA, ETA, THETA",
    "1D7B2 MATHEMATICAL SANS-SERIF BOLD ITALIC SMALL: IOTA, KAPPA, LAMDA, MU, NU, XI, OMICRON, PI, RHO",
    "1D7BB MATHEMATICAL SANS-SERIF BOLD ITALIC SMALL: FINAL SIGMA, SIGMA, TAU, UPSILON, PHI, CHI, PSI, OMEGA",
    "1D7C3 MATHEMATICAL SANS-SERIF BOLD ITALIC: PARTIAL DIFFERENTIAL, EPSILON SYMBOL, THETA SYMBOL",
    "1D7C6 MATHEMATICAL SANS-SERIF BOLD ITALIC: KAPPA SYMBOL, PHI SYMBOL, RHO SYMBOL, PI SYMBOL",
    "1D7CA MATHEMATICAL BOLD: CAPITAL DIGAMMA, SMALL DIGAMMA",
    "1D7CE MATHEMATICAL BOLD DIGIT: ZERO, ONE, TWO, THREE, FOUR, FIVE, SIX, SEVEN, EIGHT, NINE",
    "1D7D8 MATHEMATICAL DOUBLE-STRUCK DIGIT: ZERO, ONE, TWO, THREE, FOUR, FIVE, SIX, SEVEN, EIGHT, NINE",
    "1D7E2 MATHEMATICAL SANS-SERIF DIGIT: ZERO, ONE, TWO, THREE, FOUR, FIVE, SIX, SEVEN, EIGHT, NINE",
    "1D7EC MATHEMATICAL SANS-SERIF BOLD DIGIT: ZERO, ONE, TWO, THREE, FOUR, FIVE, SIX, SEVEN, EIGHT, NINE",
    "1D7F6 MATHEMATICAL MONOSPACE DIGIT: ZERO, ONE, TWO, THREE, FOUR, FIVE, SIX, SEVEN, EIGHT, NINE",
    "1D800 SIGNWRITING: HAND-FIST INDEX, HAND-CIRCLE INDEX, HAND-CUP INDEX, HAND-OVAL INDEX, HAND-HINGE INDEX",
    "1D805 SIGNWRITING: HAND-ANGLE INDEX, HAND-FIST INDEX BENT, HAND-CIRCLE INDEX BENT",
    "1D808 SIGNWRITING: HAND-FIST THUMB UNDER INDEX BENT",
    "1D809 SIGNWRITING HAND-FIST INDEX: RAISED KNUCKLE, CUPPED, HINGED, HINGED LOW",
    "1D80D SIGNWRITING: HAND-CIRCLE INDEX HINGE, HAND-FIST INDEX MIDDLE, HAND-CIRCLE INDEX MIDDLE",
    "1D810 SIGNWRITING HAND-FIST INDEX: MIDDLE BENT, MIDDLE RAISED KNUCKLES, MIDDLE HINGED, UP MIDDLE HINGED",
    "1D814 SIGNWRITING HAND-FIST INDEX: HINGED MIDDLE UP, MIDDLE CONJOINED",
    "1D816 SIGNWRITING HAND-FIST INDEX MIDDLE CONJOINED: INDEX BENT, MIDDLE BENT, CUPPED, HINGED",
    "1D81A SIGNWRITING: HAND-FIST INDEX MIDDLE CROSSED, HAND-CIRCLE INDEX MIDDLE CROSSED",
    "1D81C SIGNWRITING: HAND-FIST MIDDLE BENT OVER INDEX, HAND-FIST INDEX BENT OVER MIDDLE",
    "1D81E SIGNWRITING: HAND-FIST INDEX MIDDLE THUMB, HAND-CIRCLE INDEX MIDDLE THUMB",
    "1D820 SIGNWRITING HAND-FIST INDEX: MIDDLE STRAIGHT THUMB BENT, MIDDLE BENT THUMB STRAIGHT",
    "1D822 SIGNWRITING HAND-FIST INDEX: MIDDLE THUMB BENT, MIDDLE HINGED SPREAD THUMB SIDE",
    "1D824 SIGNWRITING HAND-FIST INDEX: UP MIDDLE HINGED THUMB SIDE, UP MIDDLE HINGED THUMB CONJOINED",
    "1D826 SIGNWRITING HAND-FIST INDEX: HINGED MIDDLE UP THUMB SIDE, MIDDLE UP SPREAD THUMB FORWARD",
    "1D828 SIGNWRITING HAND-FIST INDEX MIDDLE THUMB: CUPPED, CIRCLED, HOOKED, HINGED",
    "1D82C SIGNWRITING HAND-FIST: THUMB BETWEEN INDEX MIDDLE STRAIGHT, INDEX MIDDLE CONJOINED THUMB SIDE",
    "1D82E SIGNWRITING HAND-FIST: INDEX MIDDLE CONJOINED THUMB SIDE CONJOINED",
    "1D82F SIGNWRITING HAND-FIST: INDEX MIDDLE CONJOINED THUMB SIDE BENT, MIDDLE THUMB HOOKED INDEX UP",
    "1D831 SIGNWRITING HAND-FIST: INDEX THUMB HOOKED MIDDLE UP, INDEX MIDDLE CONJOINED HINGED THUMB SIDE",
    "1D833 SIGNWRITING HAND-FIST: INDEX MIDDLE CROSSED THUMB SIDE, INDEX MIDDLE CONJOINED THUMB FORWARD",
    "1D835 SIGNWRITING HAND-FIST: INDEX MIDDLE CONJOINED CUPPED THUMB FORWARD, MIDDLE THUMB CUPPED INDEX UP",
    "1D837 SIGNWRITING HAND-FIST: INDEX THUMB CUPPED MIDDLE UP, MIDDLE THUMB CIRCLED INDEX UP",
    "1D839 SIGNWRITING HAND-FIST: MIDDLE THUMB CIRCLED INDEX HINGED, INDEX THUMB ANGLED OUT MIDDLE UP",
    "1D83B SIGNWRITING HAND-FIST: INDEX THUMB ANGLED IN MIDDLE UP, INDEX THUMB CIRCLED MIDDLE UP",
    "1D83D SIGNWRITING HAND-FIST: INDEX MIDDLE THUMB CONJOINED HINGED, INDEX MIDDLE THUMB ANGLED OUT",
    "1D83F SIGNWRITING HAND-FIST: INDEX MIDDLE THUMB ANGLED, MIDDLE THUMB ANGLED OUT INDEX UP",
    "1D841 SIGNWRITING HAND-FIST: MIDDLE THUMB ANGLED OUT INDEX CROSSED, MIDDLE THUMB ANGLED INDEX UP",
    "1D843 SIGNWRITING HAND-FIST: INDEX THUMB HOOKED MIDDLE HINGED",
    "1D844 SIGNWRITING HAND-FLAT FOUR: FINGERS, FINGERS BENT, FINGERS HINGED, FINGERS CONJOINED",
    "1D848 SIGNWRITING HAND-FLAT FOUR: FINGERS CONJOINED SPLIT",
    "1D849 SIGNWRITING: HAND-CLAW FOUR FINGERS CONJOINED, HAND-FIST FOUR FINGERS CONJOINED BENT",
    "1D84B SIGNWRITING: HAND-HINGE FOUR FINGERS CONJOINED",
    "1D84C SIGNWRITING HAND-FLAT: FIVE FINGERS SPREAD, HEEL FIVE FINGERS SPREAD",
    "1D84E SIGNWRITING HAND-FLAT: FIVE FINGERS SPREAD FOUR BENT, HEEL FIVE FINGERS SPREAD FOUR BENT",
    "1D850 SIGNWRITING HAND-FLAT: FIVE FINGERS SPREAD BENT, HEEL FIVE FINGERS SPREAD BENT",
    "1D852 SIGNWRITING HAND-FLAT: FIVE FINGERS SPREAD THUMB FORWARD",
    "1D853 SIGNWRITING HAND-CUP FIVE FINGERS: SPREAD, SPREAD OPEN",
    "1D855 SIGNWRITING: HAND-HINGE FIVE FINGERS SPREAD OPEN, HAND-OVAL FIVE FINGERS SPREAD",
    "1D857 SIGNWRITING HAND-FLAT FIVE FINGERS SPREAD: HINGED, HINGED THUMB SIDE, HINGED NO THUMB",
    "1D85A SIGNWRITING: HAND-FLAT",
    "1D85B SIGNWRITING HAND-FLAT: BETWEEN PALM FACINGS, HEEL, THUMB SIDE, HEEL THUMB SIDE, THUMB BENT",
    "1D860 SIGNWRITING HAND-FLAT: THUMB FORWARD, SPLIT INDEX THUMB SIDE, SPLIT CENTRE",
    "1D863 SIGNWRITING HAND-FLAT: SPLIT CENTRE THUMB SIDE, SPLIT CENTRE THUMB SIDE BENT, SPLIT LITTLE",
    "1D866 SIGNWRITING: HAND-CLAW, HAND-CLAW THUMB SIDE, HAND-CLAW NO THUMB, HAND-CLAW THUMB FORWARD",
    "1D86A SIGNWRITING: HAND-HOOK CURLICUE, HAND-HOOK, HAND-CUP OPEN, HAND-CUP",
    "1D86E SIGNWRITING HAND-CUP: OPEN THUMB SIDE, THUMB SIDE, OPEN NO THUMB, NO THUMB, OPEN THUMB FORWARD",
    "1D873 SIGNWRITING HAND-CUP: THUMB FORWARD",
    "1D874 SIGNWRITING: HAND-CURLICUE OPEN, HAND-CURLICUE, HAND-CIRCLE, HAND-OVAL, HAND-OVAL THUMB SIDE",
    "1D879 SIGNWRITING: HAND-OVAL NO THUMB, HAND-OVAL THUMB FORWARD, HAND-HINGE OPEN",
    "1D87C SIGNWRITING: HAND-HINGE OPEN THUMB FORWARD, HAND-HINGE",
    "1D87E SIGNWRITING HAND-HINGE: SMALL, OPEN THUMB SIDE, THUMB SIDE, OPEN NO THUMB, NO THUMB",
    "1D883 SIGNWRITING HAND-HINGE: THUMB SIDE TOUCHING INDEX, THUMB BETWEEN MIDDLE RING",
    "1D885 SIGNWRITING: HAND-ANGLE, HAND-FIST INDEX MIDDLE RING, HAND-CIRCLE INDEX MIDDLE RING",
    "1D888 SIGNWRITING: HAND-HINGE INDEX MIDDLE RING, HAND-ANGLE INDEX MIDDLE RING, HAND-HINGE LITTLE",
    "1D88B SIGNWRITING: HAND-FIST INDEX MIDDLE RING BENT, HAND-FIST INDEX MIDDLE RING CONJOINED",
    "1D88D SIGNWRITING: HAND-HINGE INDEX MIDDLE RING CONJOINED",
    "1D88E SIGNWRITING HAND-FIST LITTLE: DOWN, DOWN RIPPLE STRAIGHT, DOWN RIPPLE CURVED, DOWN OTHERS CIRCLED",
    "1D892 SIGNWRITING HAND-FIST LITTLE: UP",
    "1D893 SIGNWRITING: HAND-FIST THUMB UNDER LITTLE UP, HAND-CIRCLE LITTLE UP, HAND-OVAL LITTLE UP",
    "1D896 SIGNWRITING: HAND-ANGLE LITTLE UP",
    "1D897 SIGNWRITING HAND-FIST LITTLE: RAISED KNUCKLE, BENT, TOUCHES THUMB, THUMB",
    "1D89B SIGNWRITING: HAND-HINGE LITTLE THUMB, HAND-FIST LITTLE INDEX THUMB, HAND-HINGE LITTLE INDEX THUMB",
    "1D89E SIGNWRITING: HAND-ANGLE LITTLE INDEX THUMB INDEX THUMB OUT",
    "1D89F SIGNWRITING: HAND-ANGLE LITTLE INDEX THUMB INDEX THUMB, HAND-FIST LITTLE INDEX",
    "1D8A1 SIGNWRITING: HAND-CIRCLE LITTLE INDEX, HAND-HINGE LITTLE INDEX, HAND-ANGLE LITTLE INDEX",
    "1D8A4 SIGNWRITING: HAND-FIST INDEX MIDDLE LITTLE, HAND-CIRCLE INDEX MIDDLE LITTLE",
    "1D8A6 SIGNWRITING: HAND-HINGE INDEX MIDDLE LITTLE, HAND-HINGE RING, HAND-ANGLE INDEX MIDDLE LITTLE",
    "1D8A9 SIGNWRITING: HAND-FIST INDEX MIDDLE CROSS LITTLE, HAND-CIRCLE INDEX MIDDLE CROSS LITTLE",
    "1D8AB SIGNWRITING: HAND-FIST RING DOWN, HAND-HINGE RING DOWN INDEX THUMB HOOK MIDDLE",
    "1D8AD SIGNWRITING: HAND-ANGLE RING DOWN MIDDLE THUMB INDEX CROSS, HAND-FIST RING UP",
    "1D8AF SIGNWRITING: HAND-FIST RING RAISED KNUCKLE, HAND-FIST RING LITTLE, HAND-CIRCLE RING LITTLE",
    "1D8B2 SIGNWRITING: HAND-OVAL RING LITTLE, HAND-ANGLE RING LITTLE",
    "1D8B4 SIGNWRITING HAND-FIST RING: MIDDLE, MIDDLE CONJOINED, MIDDLE RAISED KNUCKLES, INDEX, THUMB",
    "1D8B9 SIGNWRITING: HAND-HOOK RING THUMB, HAND-FIST INDEX RING LITTLE, HAND-CIRCLE INDEX RING LITTLE",
    "1D8BC SIGNWRITING: HAND-CURLICUE INDEX RING LITTLE ON",
    "1D8BD SIGNWRITING HAND-HOOK INDEX RING LITTLE: OUT, IN, UNDER",
    "1D8C0 SIGNWRITING: HAND-CUP INDEX RING LITTLE, HAND-HINGE INDEX RING LITTLE",
    "1D8C2 SIGNWRITING: HAND-ANGLE INDEX RING LITTLE OUT, HAND-ANGLE INDEX RING LITTLE, HAND-FIST MIDDLE DOWN",
    "1D8C5 SIGNWRITING: HAND-HINGE MIDDLE, HAND-FIST MIDDLE UP, HAND-CIRCLE MIDDLE UP",
    "1D8C8 SIGNWRITING: HAND-FIST MIDDLE RAISED KNUCKLE, HAND-FIST MIDDLE UP THUMB SIDE",
    "1D8CA SIGNWRITING: HAND-HOOK MIDDLE THUMB, HAND-FIST MIDDLE THUMB LITTLE, HAND-FIST MIDDLE LITTLE",
    "1D8CD SIGNWRITING: HAND-FIST MIDDLE RING LITTLE, HAND-CIRCLE MIDDLE RING LITTLE",
    "1D8CF SIGNWRITING: HAND-CURLICUE MIDDLE RING LITTLE ON, HAND-CUP MIDDLE RING LITTLE",
    "1D8D1 SIGNWRITING: HAND-HINGE MIDDLE RING LITTLE",
    "1D8D2 SIGNWRITING HAND-ANGLE MIDDLE RING: LITTLE OUT, LITTLE IN, LITTLE",
    "1D8D5 SIGNWRITING HAND-CIRCLE MIDDLE RING LITTLE: BENT",
    "1D8D6 SIGNWRITING HAND-CLAW MIDDLE RING LITTLE: CONJOINED, CONJOINED SIDE",
    "1D8D8 SIGNWRITING HAND-HOOK MIDDLE RING LITTLE: CONJOINED OUT, CONJOINED IN, CONJOINED",
    "1D8DB SIGNWRITING: HAND-HINGE INDEX HINGED, HAND-FIST INDEX THUMB SIDE, HAND-HINGE INDEX THUMB SIDE",
    "1D8DE SIGNWRITING HAND-FIST INDEX THUMB: SIDE THUMB DIAGONAL, SIDE THUMB CONJOINED, SIDE THUMB BENT",
    "1D8E1 SIGNWRITING HAND-FIST INDEX THUMB: SIDE INDEX BENT, SIDE BOTH BENT, SIDE INDEX HINGE",
    "1D8E4 SIGNWRITING HAND-FIST INDEX THUMB: FORWARD INDEX STRAIGHT, FORWARD INDEX BENT, HOOK, CURLICUE",
    "1D8E8 SIGNWRITING HAND-FIST INDEX THUMB: CURVE THUMB INSIDE",
    "1D8E9 SIGNWRITING: HAND-CLAW INDEX THUMB CURVE THUMB INSIDE, HAND-FIST INDEX THUMB CURVE THUMB UNDER",
    "1D8EB SIGNWRITING: HAND-FIST INDEX THUMB CIRCLE, HAND-CUP INDEX THUMB, HAND-CUP INDEX THUMB OPEN",
    "1D8EE SIGNWRITING HAND-HINGE INDEX: THUMB OPEN, THUMB LARGE, THUMB, THUMB SMALL",
    "1D8F2 SIGNWRITING HAND-ANGLE INDEX: THUMB OUT, THUMB IN, THUMB; 1D8F5 SIGNWRITING HAND-FIST: THUMB",
    "1D8F6 SIGNWRITING HAND-FIST THUMB: HEEL, SIDE DIAGONAL, SIDE CONJOINED, SIDE BENT, FORWARD",
    "1D8FB SIGNWRITING HAND-FIST THUMB: BETWEEN INDEX MIDDLE, BETWEEN MIDDLE RING, BETWEEN RING LITTLE",
    "1D8FE SIGNWRITING HAND-FIST THUMB: UNDER TWO FINGERS, OVER TWO FINGERS, UNDER THREE FINGERS",
    "1D901 SIGNWRITING HAND-FIST THUMB: UNDER FOUR FINGERS, OVER FOUR RAISED KNUCKLES",
    "1D903 SIGNWRITING: HAND-FIST, HAND-FIST HEEL, TOUCH SINGLE, TOUCH MULTIPLE, TOUCH BETWEEN, GRASP SINGLE",
    "1D909 SIGNWRITING: GRASP MULTIPLE, GRASP BETWEEN, STRIKE SINGLE, STRIKE MULTIPLE, STRIKE BETWEEN",
    "1D90E SIGNWRITING: BRUSH SINGLE, BRUSH MULTIPLE, BRUSH BETWEEN, RUB SINGLE, RUB MULTIPLE, RUB BETWEEN",
    "1D914 SIGNWRITING: SURFACE SYMBOLS, SURFACE BETWEEN, SQUEEZE LARGE SINGLE, SQUEEZE SMALL SINGLE",
    "1D918 SIGNWRITING: SQUEEZE LARGE MULTIPLE, SQUEEZE SMALL MULTIPLE, SQUEEZE SEQUENTIAL",
    "1D91B SIGNWRITING: FLICK LARGE SINGLE, FLICK SMALL SINGLE, FLICK LARGE MULTIPLE, FLICK SMALL MULTIPLE",
    "1D91F SIGNWRITING: FLICK SEQUENTIAL, SQUEEZE FLICK ALTERNATING",
    "1D921 SIGNWRITING MOVEMENT-HINGE: UP DOWN LARGE, UP DOWN SMALL, UP SEQUENTIAL, DOWN SEQUENTIAL",
    "1D925 SIGNWRITING MOVEMENT-HINGE: UP DOWN ALTERNATING LARGE, UP DOWN ALTERNATING SMALL",
    "1D927 SIGNWRITING MOVEMENT-HINGE: SIDE TO SIDE SCISSORS",
    "1D928 SIGNWRITING: MOVEMENT-WALLPLANE FINGER CONTACT, MOVEMENT-FLOORPLANE FINGER CONTACT",
    "1D92A SIGNWRITING MOVEMENT-WALLPLANE SINGLE STRAIGHT: SMALL, MEDIUM, LARGE, LARGEST",
    "1D92E SIGNWRITING MOVEMENT-WALLPLANE: SINGLE WRIST FLEX, DOUBLE STRAIGHT, DOUBLE WRIST FLEX",
    "1D931 SIGNWRITING MOVEMENT-WALLPLANE: DOUBLE ALTERNATING, DOUBLE ALTERNATING WRIST FLEX, CROSS",
    "1D934 SIGNWRITING MOVEMENT-WALLPLANE: TRIPLE STRAIGHT MOVEMENT, TRIPLE WRIST FLEX, TRIPLE ALTERNATING",
    "1D937 SIGNWRITING MOVEMENT-WALLPLANE: TRIPLE ALTERNATING WRIST FLEX, BEND SMALL, BEND MEDIUM, BEND LARGE",
    "1D93B SIGNWRITING MOVEMENT-WALLPLANE: CORNER SMALL, CORNER MEDIUM, CORNER LARGE, CORNER ROTATION",
    "1D93F SIGNWRITING MOVEMENT-WALLPLANE: CHECK SMALL, CHECK MEDIUM, CHECK LARGE, BOX SMALL, BOX MEDIUM",
    "1D944 SIGNWRITING MOVEMENT-WALLPLANE: BOX LARGE, ZIGZAG SMALL, ZIGZAG MEDIUM, ZIGZAG LARGE, PEAKS SMALL",
    "1D949 SIGNWRITING MOVEMENT-WALLPLANE: PEAKS MEDIUM, PEAKS LARGE",
    "1D94B SIGNWRITING TRAVEL-WALLPLANE ROTATION-WALLPLANE: SINGLE, DOUBLE, ALTERNATING",
    "1D94E SIGNWRITING TRAVEL-WALLPLANE ROTATION-FLOORPLANE: SINGLE, DOUBLE, ALTERNATING",
    "1D951 SIGNWRITING TRAVEL-WALLPLANE: SHAKING, ARM SPIRAL SINGLE, ARM SPIRAL DOUBLE, ARM SPIRAL TRIPLE",
    "1D955 SIGNWRITING MOVEMENT-DIAGONAL AWAY: SMALL, MEDIUM, LARGE, LARGEST",
    "1D959 SIGNWRITING MOVEMENT-DIAGONAL TOWARDS: SMALL, MEDIUM, LARGE, LARGEST",
    "1D95D SIGNWRITING MOVEMENT-DIAGONAL BETWEEN: AWAY SMALL, AWAY MEDIUM, AWAY LARGE, AWAY LARGEST",
    "1D961 SIGNWRITING MOVEMENT-DIAGONAL BETWEEN: TOWARDS SMALL, TOWARDS MEDIUM, TOWARDS LARGE",
    "1D964 SIGNWRITING MOVEMENT-DIAGONAL BETWEEN: TOWARDS LARGEST",
    "1D965 SIGNWRITING MOVEMENT-FLOORPLANE SINGLE STRAIGHT: SMALL, MEDIUM, LARGE, LARGEST",
    "1D969 SIGNWRITING MOVEMENT-FLOORPLANE: SINGLE WRIST FLEX, DOUBLE STRAIGHT, DOUBLE WRIST FLEX",
    "1D96C SIGNWRITING MOVEMENT-FLOORPLANE: DOUBLE ALTERNATING, DOUBLE ALTERNATING WRIST FLEX, CROSS",
    "1D96F SIGNWRITING MOVEMENT-FLOORPLANE: TRIPLE STRAIGHT MOVEMENT, TRIPLE WRIST FLEX",
    "1D971 SIGNWRITING MOVEMENT-FLOORPLANE: TRIPLE ALTERNATING MOVEMENT, TRIPLE ALTERNATING WRIST FLEX, BEND",
    "1D974 SIGNWRITING MOVEMENT-FLOORPLANE: CORNER SMALL, CORNER MEDIUM, CORNER LARGE, CHECK, BOX SMALL",
    "1D979 SIGNWRITING MOVEMENT-FLOORPLANE: BOX MEDIUM, BOX LARGE, ZIGZAG SMALL, ZIGZAG MEDIUM, ZIGZAG LARGE",
    "1D97E SIGNWRITING MOVEMENT-FLOORPLANE: PEAKS SMALL, PEAKS MEDIUM, PEAKS LARGE",
    "1D981 SIGNWRITING TRAVEL-FLOORPLANE ROTATION-FLOORPLANE: SINGLE, DOUBLE, ALTERNATING",
    "1D984 SIGNWRITING TRAVEL-FLOORPLANE ROTATION-WALLPLANE: SINGLE, DOUBLE, ALTERNATING",
    "1D987 SIGNWRITING TRAVEL-FLOORPLANE: SHAKING",
    "1D988 SIGNWRITING MOVEMENT-WALLPLANE CURVE QUARTER: SMALL, MEDIUM, LARGE, LARGEST",
    "1D98C SIGNWRITING MOVEMENT-WALLPLANE CURVE HALF-CIRCLE: SMALL, MEDIUM, LARGE, LARGEST",
    "1D990 SIGNWRITING MOVEMENT-WALLPLANE: CURVE THREE-QUARTER CIRCLE SMALL",
    "1D991 SIGNWRITING MOVEMENT-WALLPLANE: CURVE THREE-QUARTER CIRCLE MEDIUM, HUMP SMALL, HUMP MEDIUM",
    "1D994 SIGNWRITING MOVEMENT-WALLPLANE: HUMP LARGE, LOOP SMALL, LOOP MEDIUM, LOOP LARGE, LOOP SMALL DOUBLE",
    "1D999 SIGNWRITING MOVEMENT-WALLPLANE: WAVE CURVE DOUBLE SMALL, WAVE CURVE DOUBLE MEDIUM",
    "1D99B SIGNWRITING MOVEMENT-WALLPLANE: WAVE CURVE DOUBLE LARGE, WAVE CURVE TRIPLE SMALL",
    "1D99D SIGNWRITING MOVEMENT-WALLPLANE: WAVE CURVE TRIPLE MEDIUM, WAVE CURVE TRIPLE LARGE",
    "1D99F SIGNWRITING MOVEMENT-WALLPLANE: CURVE THEN STRAIGHT, CURVED CROSS SMALL, CURVED CROSS MEDIUM",
    "1D9A2 SIGNWRITING ROTATION-WALLPLANE: SINGLE, DOUBLE, ALTERNATE",
    "1D9A5 SIGNWRITING MOVEMENT-WALLPLANE: SHAKING, CURVE HITTING FRONT WALL, HUMP HITTING FRONT WALL",
    "1D9A8 SIGNWRITING MOVEMENT-WALLPLANE: LOOP HITTING FRONT WALL, WAVE HITTING FRONT WALL",
    "1D9AA SIGNWRITING ROTATION-WALLPLANE: SINGLE HITTING FRONT WALL, DOUBLE HITTING FRONT WALL",
    "1D9AC SIGNWRITING ROTATION-WALLPLANE: ALTERNATING HITTING FRONT WALL",
    "1D9AD SIGNWRITING MOVEMENT-WALLPLANE: CURVE HITTING CHEST, HUMP HITTING CHEST, LOOP HITTING CHEST",
    "1D9B0 SIGNWRITING MOVEMENT-WALLPLANE: WAVE HITTING CHEST",
    "1D9B1 SIGNWRITING ROTATION-WALLPLANE: SINGLE HITTING CHEST, DOUBLE HITTING CHEST",
    "1D9B3 SIGNWRITING ROTATION-WALLPLANE: ALTERNATING HITTING CHEST",
    "1D9B4 SIGNWRITING MOVEMENT-WALLPLANE WAVE DIAGONAL PATH: SMALL, MEDIUM, LARGE",
    "1D9B7 SIGNWRITING MOVEMENT-FLOORPLANE CURVE HITTING CEILING: SMALL, LARGE",
    "1D9B9 SIGNWRITING MOVEMENT-FLOORPLANE HUMP HITTING CEILING: SMALL DOUBLE, LARGE DOUBLE, SMALL TRIPLE",
    "1D9BC SIGNWRITING MOVEMENT-FLOORPLANE HUMP HITTING CEILING: LARGE TRIPLE",
    "1D9BD SIGNWRITING MOVEMENT-FLOORPLANE LOOP HITTING CEILING: SMALL SINGLE, LARGE SINGLE, SMALL DOUBLE",
    "1D9C0 SIGNWRITING MOVEMENT-FLOORPLANE LOOP HITTING CEILING: LARGE DOUBLE",
    "1D9C1 SIGNWRITING MOVEMENT-FLOORPLANE WAVE HITTING CEILING: SMALL, LARGE",
    "1D9C3 SIGNWRITING ROTATION-FLOORPLANE: SINGLE HITTING CEILING, DOUBLE HITTING CEILING",
    "1D9C5 SIGNWRITING ROTATION-FLOORPLANE: ALTERNATING HITTING CEILING",
    "1D9C6 SIGNWRITING MOVEMENT-FLOORPLANE CURVE HITTING FLOOR: SMALL, LARGE",
    "1D9C8 SIGNWRITING MOVEMENT-FLOORPLANE HUMP HITTING FLOOR: SMALL DOUBLE, LARGE DOUBLE",
    "1D9CA SIGNWRITING MOVEMENT-FLOORPLANE HUMP HITTING FLOOR: TRIPLE SMALL TRIPLE, TRIPLE LARGE TRIPLE",
    "1D9CC SIGNWRITING MOVEMENT-FLOORPLANE LOOP HITTING FLOOR: SMALL SINGLE, LARGE SINGLE, SMALL DOUBLE",
    "1D9CF SIGNWRITING MOVEMENT-FLOORPLANE LOOP HITTING FLOOR: LARGE DOUBLE",
    "1D9D0 SIGNWRITING MOVEMENT-FLOORPLANE WAVE HITTING FLOOR: SMALL, LARGE",
    "1D9D2 SIGNWRITING ROTATION-FLOORPLANE: SINGLE HITTING FLOOR, DOUBLE HITTING FLOOR",
    "1D9D4 SIGNWRITING ROTATION-FLOORPLANE: ALTERNATING HITTING FLOOR",
    "1D9D5 SIGNWRITING MOVEMENT-FLOORPLANE: CURVE SMALL, CURVE MEDIUM, CURVE LARGE, CURVE LARGEST",
    "1D9D9 SIGNWRITING MOVEMENT-FLOORPLANE: CURVE COMBINED, HUMP SMALL, LOOP SMALL, WAVE SNAKE, WAVE SMALL",
    "1D9DE SIGNWRITING MOVEMENT-FLOORPLANE: WAVE LARGE",
    "1D9DF SIGNWRITING ROTATION-FLOORPLANE: SINGLE, DOUBLE, ALTERNATING",
    "1D9E2 SIGNWRITING MOVEMENT-FLOORPLANE SHAKING: PARALLEL",
    "1D9E3 SIGNWRITING MOVEMENT-WALLPLANE ARM CIRCLE: SMALL SINGLE, MEDIUM SINGLE, SMALL DOUBLE",
    "1D9E6 SIGNWRITING MOVEMENT-WALLPLANE ARM CIRCLE: MEDIUM DOUBLE",
    "1D9E7 SIGNWRITING MOVEMENT-FLOORPLANE ARM CIRCLE HITTING WALL: SMALL SINGLE, MEDIUM SINGLE, LARGE SINGLE",
    "1D9EA SIGNWRITING MOVEMENT-FLOORPLANE ARM CIRCLE HITTING WALL: SMALL DOUBLE, MEDIUM DOUBLE, LARGE DOUBLE",
    "1D9ED SIGNWRITING MOVEMENT-WALLPLANE WRIST CIRCLE FRONT: SINGLE, DOUBLE",
    "1D9EF SIGNWRITING MOVEMENT-FLOORPLANE WRIST CIRCLE HITTING WALL: SINGLE, DOUBLE",
    "1D9F1 SIGNWRITING MOVEMENT-WALLPLANE FINGER CIRCLES: SINGLE, DOUBLE",
    "1D9F3 SIGNWRITING MOVEMENT-FLOORPLANE FINGER CIRCLES HITTING WALL: SINGLE, DOUBLE",
    "1D9F5 SIGNWRITING DYNAMIC: ARROWHEAD SMALL, ARROWHEAD LARGE, FAST, SLOW, TENSE, RELAXED, SIMULTANEOUS",
    "1D9FC SIGNWRITING DYNAMIC: SIMULTANEOUS ALTERNATING, EVERY OTHER TIME, GRADUAL; 1D9FF SIGNWRITING: HEAD",
    "1DA00 SIGNWRITING HEAD: RIM, MOVEMENT-WALLPLANE STRAIGHT, MOVEMENT-WALLPLANE TILT",
    "1DA03 SIGNWRITING HEAD: MOVEMENT-FLOORPLANE STRAIGHT, MOVEMENT-WALLPLANE CURVE",
    "1DA05 SIGNWRITING HEAD: MOVEMENT-FLOORPLANE CURVE, MOVEMENT CIRCLE",
    "1DA07 SIGNWRITING FACE DIRECTION POSITION NOSE: FORWARD TILTING, UP OR DOWN, UP OR DOWN TILTING",
    "1DA0A SIGNWRITING EYEBROWS STRAIGHT: UP, NEUTRAL, DOWN",
    "1DA0D SIGNWRITING DREAMY EYEBROWS: NEUTRAL DOWN, DOWN NEUTRAL, UP NEUTRAL, NEUTRAL UP",
    "1DA11 SIGNWRITING: FOREHEAD NEUTRAL, FOREHEAD CONTACT, FOREHEAD WRINKLED, EYES OPEN, EYES SQUEEZED",
    "1DA16 SIGNWRITING: EYES CLOSED, EYE BLINK SINGLE, EYE BLINK MULTIPLE, EYES HALF OPEN, EYES WIDE OPEN",
    "1DA1B SIGNWRITING: EYES HALF CLOSED, EYES WIDENING MOVEMENT, EYE WINK",
    "1DA1E SIGNWRITING EYELASHES: UP, DOWN, FLUTTERING",
    "1DA21 SIGNWRITING EYEGAZE-WALLPLANE: STRAIGHT, STRAIGHT DOUBLE, STRAIGHT ALTERNATING",
    "1DA24 SIGNWRITING EYEGAZE-FLOORPLANE: STRAIGHT, STRAIGHT DOUBLE, STRAIGHT ALTERNATING",
    "1DA27 SIGNWRITING: EYEGAZE-WALLPLANE CURVED, EYEGAZE-FLOORPLANE CURVED, EYEGAZE-WALLPLANE CIRCLING",
    "1DA2A SIGNWRITING: CHEEKS PUFFED, CHEEKS NEUTRAL, CHEEKS SUCKED, TENSE CHEEKS HIGH, TENSE CHEEKS MIDDLE",
    "1DA2F SIGNWRITING: TENSE CHEEKS LOW, EARS, NOSE NEUTRAL, NOSE CONTACT, NOSE WRINKLES, NOSE WIGGLES",
    "1DA35 SIGNWRITING: AIR BLOWING OUT, AIR SUCKING IN, AIR BLOW SMALL ROTATIONS, AIR SUCK SMALL ROTATIONS",
    "1DA39 SIGNWRITING: BREATH INHALE, BREATH EXHALE",
    "1DA3B SIGNWRITING MOUTH: CLOSED NEUTRAL, CLOSED FORWARD, CLOSED CONTACT, SMILE, SMILE WRINKLED",
    "1DA40 SIGNWRITING MOUTH: SMILE OPEN, FROWN, FROWN WRINKLED, FROWN OPEN, OPEN CIRCLE, OPEN FORWARD",
    "1DA46 SIGNWRITING MOUTH: OPEN WRINKLED, OPEN OVAL, OPEN OVAL WRINKLED, OPEN OVAL YAWN, OPEN RECTANGLE",
    "1DA4B SIGNWRITING MOUTH: OPEN RECTANGLE WRINKLED, OPEN RECTANGLE YAWN, KISS, KISS FORWARD, KISS WRINKLED",
    "1DA50 SIGNWRITING MOUTH: TENSE, TENSE FORWARD, TENSE SUCKED",
    "1DA53 SIGNWRITING: LIPS PRESSED TOGETHER, LIP LOWER OVER UPPER, LIP UPPER OVER LOWER, MOUTH CORNERS",
    "1DA57 SIGNWRITING: MOUTH WRINKLES SINGLE, MOUTH WRINKLES DOUBLE",
    "1DA59 SIGNWRITING TONGUE: STICKING OUT FAR, LICKING LIPS, TIP BETWEEN LIPS, TIP TOUCHING INSIDE MOUTH",
    "1DA5D SIGNWRITING TONGUE: INSIDE MOUTH RELAXED, MOVES AGAINST CHEEK, CENTRE STICKING OUT",
    "1DA60 SIGNWRITING TONGUE: CENTRE INSIDE MOUTH",
    "1DA61 SIGNWRITING: TEETH, TEETH MOVEMENT, TEETH ON TONGUE, TEETH ON TONGUE MOVEMENT, TEETH ON LIPS",
    "1DA66 SIGNWRITING: TEETH ON LIPS MOVEMENT, TEETH BITE LIPS, MOVEMENT-WALLPLANE JAW",
    "1DA69 SIGNWRITING: MOVEMENT-FLOORPLANE JAW, NECK, HAIR, EXCITEMENT, SHOULDER HIP SPINE",
    "1DA6E SIGNWRITING: SHOULDER HIP POSITIONS, WALLPLANE SHOULDER HIP MOVE, FLOORPLANE SHOULDER HIP MOVE",
    "1DA71 SIGNWRITING: SHOULDER TILTING FROM WAIST, TORSO-WALLPLANE STRAIGHT STRETCH",
    "1DA73 SIGNWRITING: TORSO-WALLPLANE CURVED BEND, TORSO-FLOORPLANE TWISTING",
    "1DA75 SIGNWRITING: UPPER BODY TILTING FROM HIP JOINTS, LIMB COMBINATION, LIMB LENGTH-1, LIMB LENGTH-2",
    "1DA79 SIGNWRITING: LIMB LENGTH-3, LIMB LENGTH-4, LIMB LENGTH-5, LIMB LENGTH-6, LIMB LENGTH-7, FINGER",
    "1DA7F SIGNWRITING: LOCATION-WALLPLANE SPACE, LOCATION-FLOORPLANE SPACE",
    "1DA81 SIGNWRITING LOCATION: HEIGHT, WIDTH, DEPTH, HEAD NECK, TORSO, LIMBS DIGITS",
    "1DA87 SIGNWRITING: COMMA, FULL STOP, SEMICOLON, COLON, PARENTHESIS",
    "1DA9B SIGNWRITING FILL: MODIFIER-2, MODIFIER-3, MODIFIER-4, MODIFIER-5, MODIFIER-6",
    "1DAA1 SIGNWRITING ROTATION: MODIFIER-2, MODIFIER-3, MODIFIER-4, MODIFIER-5, MODIFIER-6, MODIFIER-7",
    "1DAA7 SIGNWRITING ROTATION: MODIFIER-8, MODIFIER-9, MODIFIER-10, MODIFIER-11, MODIFIER-12, MODIFIER-13",
    "1DAAD SIGNWRITING ROTATION: MODIFIER-14, MODIFIER-15, MODIFIER-16",
    "1DF00 LATIN: SMALL LETTER FENG DIGRAPH WITH TRILL, SMALL LETTER REVERSED SCRIPT G",
    "1DF02 LATIN: LETTER SMALL CAPITAL TURNED G, SMALL LETTER REVERSED K, LETTER SMALL CAPITAL L WITH BELT",
    "1DF05 LATIN SMALL LETTER: LEZH WITH RETROFLEX HOOK, TURNED Y WITH BELT, REVERSED ENG",
    "1DF08 LATIN SMALL LETTER: TURNED R WITH LONG LEG AND RETROFLEX HOOK, T WITH HOOK AND RETROFLEX HOOK",
    "1DF0A LATIN LETTER RETROFLEX CLICK WITH RETROFLEX: HOOK",
    "1DF0B LATIN SMALL LETTER: ESH WITH DOUBLE BAR, ESH WITH DOUBLE BAR AND CURL, TURNED T WITH CURL",
    "1DF0E LATIN LETTER: INVERTED GLOTTAL STOP WITH CURL, STRETCHED C WITH CURL, SMALL CAPITAL TURNED K",
    "1DF11 LATIN SMALL LETTER: L WITH FISHHOOK, DEZH DIGRAPH WITH PALATAL HOOK, L WITH BELT AND PALATAL HOOK",
    "1DF14 LATIN SMALL LETTER: ENG WITH PALATAL HOOK, TURNED R WITH PALATAL HOOK",
    "1DF16 LATIN SMALL LETTER: R WITH FISHHOOK AND PALATAL HOOK, TESH DIGRAPH WITH PALATAL HOOK",
    "1DF18 LATIN SMALL LETTER: EZH WITH PALATAL HOOK, DEZH DIGRAPH WITH RETROFLEX HOOK",
    "1DF1A LATIN SMALL LETTER: I WITH STROKE AND RETROFLEX HOOK, O WITH RETROFLEX HOOK",
    "1DF1C LATIN SMALL LETTER: TESH DIGRAPH WITH RETROFLEX HOOK, C WITH RETROFLEX HOOK, S WITH CURL",
    "1E000 COMBINING GLAGOLITIC LETTER: AZU, BUKY, VEDE, GLAGOLI, DOBRO, YESTU, ZHIVETE",
    "1E008 COMBINING GLAGOLITIC LETTER: ZEMLJA, IZHE, INITIAL IZHE, I, DJERVI, KAKO, LJUDIJE, MYSLITE, NASHI",
    "1E011 COMBINING GLAGOLITIC LETTER: ONU, POKOJI, RITSI, SLOVO, TVRIDO, UKU, FRITU, HERU",
    "1E01B COMBINING GLAGOLITIC LETTER: SHTA, TSI, CHRIVI, SHA, YERU, YERI, YATI",
    "1E023 COMBINING GLAGOLITIC LETTER: YU, SMALL YUS",
    "1E026 COMBINING GLAGOLITIC LETTER: YO, IOTATED SMALL YUS, BIG YUS, IOTATED BIG YUS, FITA",
    "1E100 NYIAKENG PUACHUE HMONG LETTER: MA, TSA, NTA, TA, HA, NA, XA, NKA, CA, LA, SA, ZA, NCA, NTSA, KA",
    "1E10F NYIAKENG PUACHUE HMONG LETTER: DA, NYA, NRA, VA, NTXA, TXA, FA, RA, QA, YA, NQA, PA, XYA, NPA, DLA",
    "1E11E NYIAKENG PUACHUE HMONG LETTER: NPLA, HAH, MLA, PLA, GA, RRA, A, AA, I, U, O, OO, E, EE, W",
    "1E130 NYIAKENG PUACHUE HMONG: TONE-B, TONE-M, TONE-J, TONE-V, TONE-S, TONE-G, TONE-D, SIGN FOR PERSON",
    "1E138 NYIAKENG PUACHUE HMONG: SIGN FOR THING, SIGN FOR LOCATION, SIGN FOR ANIMAL, SIGN FOR INVERTEBRATE",
    "1E13C NYIAKENG PUACHUE HMONG: SIGN XW XW, SYLLABLE LENGTHENER",
    "1E140 NYIAKENG PUACHUE HMONG DIGIT: ZERO, ONE, TWO, THREE, FOUR, FIVE, SIX, SEVEN, EIGHT, NINE",
    "1E14E NYIAKENG PUACHUE HMONG: LOGOGRAM NYAJ, CIRCLED CA",
    "1E290 TOTO LETTER: PA, BA, TA, DA, KA, GA, MA, NA, NGA, SA, CHA, YA, WA, JA, HA, RA, LA, I, BREATHY I",
    "1E2A3 TOTO LETTER: IU, BREATHY IU, U, E, BREATHY E, EO, BREATHY EO, O, AE, BREATHY AE, A",
    "1E2AE TOTO SIGN RISING: TONE",
    "1E2C0 WANCHO LETTER: AA, A, BA, CA, DA, GA, YA, PHA, LA, NA, PA, TA, THA, FA, SA, SHA, JA, ZA, WA, VA",
    "1E2D4 WANCHO LETTER: KA, O, AU, RA, MA, KHA, HA, E, I, NGA, U, LLHA, TSA, TRA, ONG, AANG, ANG, ING, ON",
    "1E2E7 WANCHO LETTER: EN, AAN, NYA, UEN, YIH; 1E2EC WANCHO TONE: TUP, TUPNI, KOI, KOINI",
    "1E2F0 WANCHO DIGIT: ZERO, ONE, TWO, THREE, FOUR, FIVE, SIX, SEVEN, EIGHT, NINE; 1E2FF WANCHO NGUN: SIGN",
    "1E7E0 ETHIOPIC SYLLABLE: HHYA, HHYU, HHYI, HHYAA, HHYEE, HHYE, HHYO",
    "1E7E8 ETHIOPIC SYLLABLE: GURAGE HHWA, HHWI, HHWEE, HHWE; 1E7ED ETHIOPIC SYLLABLE GURAGE: MWI, MWEE",
    "1E7F0 ETHIOPIC SYLLABLE GURAGE: QWI, QWEE, QWE, BWI, BWEE, KWI, KWEE, KWE, GWI, GWEE, GWE, FWI, FWEE",
    "1E7FD ETHIOPIC SYLLABLE GURAGE: PWI, PWEE",
    "1E800 MENDE KIKAKUI SYLLABLE: M001 KI, M002 KA, M003 KU, M065 KEE, M095 KE, M076 KOO, M048 KO, M179 KUA",
    "1E808 MENDE KIKAKUI SYLLABLE: M004 WI, M005 WA, M006 WU, M126 WEE, M118 WE, M114 WOO, M045 WO, M194 WUI",
    "1E810 MENDE KIKAKUI SYLLABLE: M143 WEI, M061 WVI, M049 WVA, M139 WVE, M007 MIN, M008 MAN, M009 MUN",
    "1E817 MENDE KIKAKUI SYLLABLE: M059 MEN, M094 MON, M154 MUAN, M189 MUEN, M010 BI, M011 BA, M012 BU",
    "1E81E MENDE KIKAKUI SYLLABLE: M150 BEE, M097 BE, M103 BOO, M138 BO, M013 I, M014 A, M015 U, M163 EE",
    "1E826 MENDE KIKAKUI SYLLABLE: M100 E, M165 OO, M147 O, M137 EI, M131 IN, M135 IN, M195 AN, M178 EN",
    "1E82E MENDE KIKAKUI SYLLABLE: M019 SI, M020 SA, M021 SU, M162 SEE, M116 SE, M136 SOO, M079 SO, M196 SIA",
    "1E836 MENDE KIKAKUI SYLLABLE: M025 LI, M026 LA, M027 LU, M084 LEE, M073 LE, M054 LOO, M153 LO",
    "1E83D MENDE KIKAKUI SYLLABLE: M110 LONG LE, M016 DI, M017 DA, M018 DU, M089 DEE, M180 DOO, M181 DO",
    "1E844 MENDE KIKAKUI SYLLABLE: M022 TI, M023 TA, M024 TU, M091 TEE, M055 TE, M104 TOO, M069 TO, M028 JI",
    "1E84C MENDE KIKAKUI SYLLABLE: M029 JA, M030 JU, M157 JEE, M113 JE, M160 JOO, M063 JO, M175 LONG JO",
    "1E853 MENDE KIKAKUI SYLLABLE: M031 YI, M032 YA, M033 YU, M109 YEE, M080 YE, M141 YOO, M121 YO, M034 FI",
    "1E85B MENDE KIKAKUI SYLLABLE: M035 FA, M036 FU, M078 FEE, M075 FE, M133 FOO, M088 FO, M197 FUA, M101 FAN",
    "1E863 MENDE KIKAKUI SYLLABLE: M037 NIN, M038 NAN, M039 NUN, M117 NEN, M169 NON, M176 HI, M041 HA",
    "1E86A MENDE KIKAKUI SYLLABLE: M186 HU, M040 HEE, M096 HE, M042 HOO, M140 HO, M083 HEEI, M128 HOOU",
    "1E871 MENDE KIKAKUI SYLLABLE: M053 HIN, M130 HAN, M087 HUN, M052 HEN, M193 HON, M046 HUAN, M090 NGGI",
    "1E878 MENDE KIKAKUI SYLLABLE: M043 NGGA, M082 NGGU, M115 NGGEE, M146 NGGE, M156 NGGOO, M120 NGGO",
    "1E87E MENDE KIKAKUI SYLLABLE: M159 NGGAA, M127 NGGUA, M086 LONG NGGE, M106 LONG NGGOO, M183 LONG NGGO",
    "1E883 MENDE KIKAKUI SYLLABLE: M155 GI, M111 GA, M168 GU, M190 GEE, M166 GUEI, M167 GUAN, M184 NGEN",
    "1E88A MENDE KIKAKUI SYLLABLE: M057 NGON, M177 NGUAN, M068 PI, M099 PA, M050 PU, M081 PEE, M051 PE",
    "1E891 MENDE KIKAKUI SYLLABLE: M102 POO, M066 PO, M145 MBI, M062 MBA, M122 MBU, M047 MBEE, M188 MBEE",
    "1E898 MENDE KIKAKUI SYLLABLE: M072 MBE, M172 MBOO, M174 MBO, M187 MBUU, M161 LONG MBE, M105 LONG MBOO",
    "1E89E MENDE KIKAKUI SYLLABLE: M142 LONG MBO, M132 KPI, M092 KPA, M074 KPU, M044 KPEE, M108 KPE",
    "1E8A4 MENDE KIKAKUI SYLLABLE: M112 KPOO, M158 KPO, M124 GBI, M056 GBA, M148 GBU, M093 GBEE, M107 GBE",
    "1E8AB MENDE KIKAKUI SYLLABLE: M071 GBOO, M070 GBO, M171 RA, M123 NDI, M129 NDA, M125 NDU, M191 NDEE",
    "1E8B2 MENDE KIKAKUI SYLLABLE: M119 NDE, M067 NDOO, M064 NDO, M152 NJA, M192 NJU, M149 NJEE, M134 NJOO",
    "1E8B9 MENDE KIKAKUI SYLLABLE: M182 VI, M185 VA, M151 VU, M173 VEE, M085 VE, M144 VOO, M077 VO, M164 NYIN",
    "1E8C1 MENDE KIKAKUI SYLLABLE: M058 NYAN, M170 NYUN, M098 NYEN, M060 NYON",
    "1E8C7 MENDE KIKAKUI DIGIT: ONE, TWO, THREE, FOUR, FIVE, SIX, SEVEN, EIGHT, NINE",
    "1E8D0 MENDE KIKAKUI COMBINING NUMBER: TEENS, TENS, HUNDREDS, THOUSANDS, TEN THOUSANDS, HUNDRED THOUSANDS",
    "1E8D6 MENDE KIKAKUI COMBINING NUMBER: MILLIONS",
    "1E900 ADLAM CAPITAL LETTER: ALIF, DAALI, LAAM, MIIM, BA, SINNYIIYHE, PE, BHE, RA, E, FA, I, O, DHA, YHE",
    "1E90F ADLAM CAPITAL LETTER: WAW, NUN, KAF, YA, U, JIIM, CHI, HA, QAAF, GA, NYA, TU, NHA, VA, KHA, GBE",
    "1E91F ADLAM CAPITAL LETTER: ZAL, KPO, SHA",
    "1E922 ADLAM SMALL LETTER: ALIF, DAALI, LAAM, MIIM, BA, SINNYIIYHE, PE, BHE, RA, E, FA, I, O, DHA, YHE",
    "1E931 ADLAM SMALL LETTER: WAW, NUN, KAF, YA, U, JIIM, CHI, HA, QAAF, GA, NYA, TU, NHA, VA, KHA, GBE, ZAL",
    "1E942 ADLAM SMALL LETTER: KPO, SHA",
    "1E944 ADLAM: ALIF LENGTHENER, VOWEL LENGTHENER, GEMINATION MARK, HAMZA, CONSONANT MODIFIER",
    "1E949 ADLAM: GEMINATE CONSONANT MODIFIER, NUKTA, NASALIZATION MARK",
    "1E950 ADLAM DIGIT: ZERO, ONE, TWO, THREE, FOUR, FIVE, SIX, SEVEN, EIGHT, NINE",
    "1E95E ADLAM INITIAL: EXCLAMATION MARK, QUESTION MARK",
    "1EC71 INDIC SIYAQ NUMBER: ONE, TWO, THREE, FOUR, FIVE, SIX, SEVEN, EIGHT, NINE, TEN, TWENTY, THIRTY",
    "1EC7D INDIC SIYAQ NUMBER: FORTY, FIFTY, SIXTY, SEVENTY, EIGHTY, NINETY, ONE HUNDRED, TWO HUNDRED",
    "1EC85 INDIC SIYAQ NUMBER: THREE HUNDRED, FOUR HUNDRED, FIVE HUNDRED, SIX HUNDRED, SEVEN HUNDRED",
    "1EC8A INDIC SIYAQ NUMBER: EIGHT HUNDRED, NINE HUNDRED, ONE THOUSAND, TWO THOUSAND, THREE THOUSAND",
    "1EC8F INDIC SIYAQ NUMBER: FOUR THOUSAND, FIVE THOUSAND, SIX THOUSAND, SEVEN THOUSAND, EIGHT THOUSAND",
    "1EC94 INDIC SIYAQ NUMBER: NINE THOUSAND, TEN THOUSAND, TWENTY THOUSAND, THIRTY THOUSAND, FORTY THOUSAND",
    "1EC99 INDIC SIYAQ NUMBER: FIFTY THOUSAND, SIXTY THOUSAND, SEVENTY THOUSAND, EIGHTY THOUSAND",
    "1EC9D INDIC SIYAQ NUMBER: NINETY THOUSAND, LAKH, LAKHAN",
    "1ECA0 INDIC SIYAQ: LAKH MARK, NUMBER KAROR, NUMBER KARORAN",
    "1ECA3 INDIC SIYAQ NUMBER PREFIXED: ONE, TWO, THREE, FOUR, FIVE, SIX, SEVEN, EIGHT, NINE",
    "1ECAC INDIC SIYAQ: PLACEHOLDER, FRACTION ONE QUARTER, FRACTION ONE HALF, FRACTION THREE QUARTERS",
    "1ECB0 INDIC SIYAQ: RUPEE MARK, NUMBER ALTERNATE ONE, NUMBER ALTERNATE TWO, NUMBER ALTERNATE TEN THOUSAND",
    "1ECB4 INDIC SIYAQ: ALTERNATE LAKH MARK",
    "1ED01 OTTOMAN SIYAQ NUMBER: ONE, TWO, THREE, FOUR, FIVE, SIX, SEVEN, EIGHT, NINE, TEN, TWENTY, THIRTY",
    "1ED0D OTTOMAN SIYAQ NUMBER: FORTY, FIFTY, SIXTY, SEVENTY, EIGHTY, NINETY, ONE HUNDRED, TWO HUNDRED",
    "1ED15 OTTOMAN SIYAQ NUMBER: THREE HUNDRED, FOUR HUNDRED, FIVE HUNDRED, SIX HUNDRED, SEVEN HUNDRED",
    "1ED1A OTTOMAN SIYAQ NUMBER: EIGHT HUNDRED, NINE HUNDRED, ONE THOUSAND, TWO THOUSAND, THREE THOUSAND",
    "1ED1F OTTOMAN SIYAQ NUMBER: FOUR THOUSAND, FIVE THOUSAND, SIX THOUSAND, SEVEN THOUSAND, EIGHT THOUSAND",
    "1ED24 OTTOMAN SIYAQ NUMBER: NINE THOUSAND, TEN THOUSAND, TWENTY THOUSAND, THIRTY THOUSAND",
    "1ED28 OTTOMAN SIYAQ NUMBER: FORTY THOUSAND, FIFTY THOUSAND, SIXTY THOUSAND, SEVENTY THOUSAND",
    "1ED2C OTTOMAN SIYAQ NUMBER: EIGHTY THOUSAND, NINETY THOUSAND; 1ED2E OTTOMAN SIYAQ: MARRATAN",
    "1ED2F OTTOMAN SIYAQ ALTERNATE NUMBER: TWO, THREE, FOUR, FIVE, SIX, SEVEN, EIGHT, NINE, TEN, FOUR HUNDRED",
    "1ED39 OTTOMAN SIYAQ ALTERNATE NUMBER: SIX HUNDRED, TWO THOUSAND, TEN THOUSAND",
    "1ED3C OTTOMAN SIYAQ FRACTION ONE: HALF, SIXTH; 1EE00 ARABIC MATHEMATICAL: ALEF, BEH, JEEM, DAL",
    "1EE05 ARABIC MATHEMATICAL: WAW, ZAIN, HAH, TAH, YEH, KAF, LAM, MEEM, NOON, SEEN, AIN, FEH, SAD, QAF, REH",
    "1EE14 ARABIC MATHEMATICAL: SHEEN, TEH, THEH, KHAH, THAL, DAD, ZAH, GHAIN, DOTLESS BEH, DOTLESS NOON",
    "1EE1E ARABIC MATHEMATICAL: DOTLESS FEH, DOTLESS QAF; 1EE21 ARABIC MATHEMATICAL INITIAL: BEH, JEEM",
    "1EE24 ARABIC MATHEMATICAL INITIAL: HEH; 1EE27 ARABIC MATHEMATICAL INITIAL: HAH",
    "1EE29 ARABIC MATHEMATICAL INITIAL: YEH, KAF, LAM, MEEM, NOON, SEEN, AIN, FEH, SAD, QAF",
    "1EE34 ARABIC MATHEMATICAL INITIAL: SHEEN, TEH, THEH, KHAH; 1EE39 ARABIC MATHEMATICAL INITIAL: DAD",
    "1EE3B ARABIC MATHEMATICAL INITIAL: GHAIN; 1EE42 ARABIC MATHEMATICAL TAILED: JEEM",
    "1EE47 ARABIC MATHEMATICAL TAILED: HAH; 1EE49 ARABIC MATHEMATICAL TAILED: YEH",
    "1EE4B ARABIC MATHEMATICAL TAILED: LAM; 1EE4D ARABIC MATHEMATICAL TAILED: NOON, SEEN, AIN",
    "1EE51 ARABIC MATHEMATICAL TAILED: SAD, QAF; 1EE54 ARABIC MATHEMATICAL TAILED: SHEEN",
    "1EE57 ARABIC MATHEMATICAL TAILED: KHAH; 1EE59 ARABIC MATHEMATICAL TAILED: DAD",
    "1EE5B ARABIC MATHEMATICAL TAILED: GHAIN; 1EE5D ARABIC MATHEMATICAL TAILED DOTLESS: NOON",
    "1EE5F ARABIC MATHEMATICAL TAILED DOTLESS: QAF; 1EE61 ARABIC MATHEMATICAL STRETCHED: BEH, JEEM",
    "1EE64 ARABIC MATHEMATICAL STRETCHED: HEH; 1EE67 ARABIC MATHEMATICAL STRETCHED: HAH, TAH, YEH, KAF",
    "1EE6C ARABIC MATHEMATICAL STRETCHED: MEEM, NOON, SEEN, AIN, FEH, SAD, QAF",
    "1EE74 ARABIC MATHEMATICAL STRETCHED: SHEEN, TEH, THEH, KHAH",
    "1EE79 ARABIC MATHEMATICAL STRETCHED: DAD, ZAH, GHAIN, DOTLESS BEH",
    "1EE7E ARABIC MATHEMATICAL STRETCHED DOTLESS: FEH",
    "1EE80 ARABIC MATHEMATICAL LOOPED: ALEF, BEH, JEEM, DAL, HEH, WAW, ZAIN, HAH, TAH, YEH",
    "1EE8B ARABIC MATHEMATICAL LOOPED: LAM, MEEM, NOON, SEEN, AIN, FEH, SAD, QAF, REH, SHEEN, TEH, THEH, KHAH",
    "1EE98 ARABIC MATHEMATICAL LOOPED: THAL, DAD, ZAH, GHAIN",
    "1EEA1 ARABIC MATHEMATICAL DOUBLE-STRUCK: BEH, JEEM, DAL",
    "1EEA5 ARABIC MATHEMATICAL DOUBLE-STRUCK: WAW, ZAIN, HAH, TAH, YEH",
    "1EEAB ARABIC MATHEMATICAL DOUBLE-STRUCK: LAM, MEEM, NOON, SEEN, AIN, FEH, SAD, QAF, REH, SHEEN, TEH",
    "1EEB6 ARABIC MATHEMATICAL DOUBLE-STRUCK: THEH, KHAH, THAL, DAD, ZAH, GHAIN",
    "1EEF0 ARABIC MATHEMATICAL OPERATOR: MEEM WITH HAH WITH TATWEEL, HAH WITH DAL",
    "1F000 MAHJONG TILE: EAST WIND, SOUTH WIND, WEST WIND, NORTH WIND, RED DRAGON, GREEN DRAGON, WHITE DRAGON",
    "1F007 MAHJONG TILE: ONE OF CHARACTERS, TWO OF CHARACTERS, THREE OF CHARACTERS, FOUR OF CHARACTERS",
    "1F00B MAHJONG TILE: FIVE OF CHARACTERS, SIX OF CHARACTERS, SEVEN OF CHARACTERS, EIGHT OF CHARACTERS",
    "1F00F MAHJONG TILE: NINE OF CHARACTERS, ONE OF BAMBOOS, TWO OF BAMBOOS, THREE OF BAMBOOS",
    "1F013 MAHJONG TILE: FOUR OF BAMBOOS, FIVE OF BAMBOOS, SIX OF BAMBOOS, SEVEN OF BAMBOOS, EIGHT OF BAMBOOS",
    "1F018 MAHJONG TILE: NINE OF BAMBOOS, ONE OF CIRCLES, TWO OF CIRCLES, THREE OF CIRCLES, FOUR OF CIRCLES",
    "1F01D MAHJONG TILE: FIVE OF CIRCLES, SIX OF CIRCLES, SEVEN OF CIRCLES, EIGHT OF CIRCLES, NINE OF CIRCLES",
    "1F022 MAHJONG TILE: PLUM, ORCHID, BAMBOO, CHRYSANTHEMUM, SPRING, SUMMER, AUTUMN, WINTER, JOKER, BACK",
    "1F030 DOMINO TILE: HORIZONTAL BACK, HORIZONTAL-00-00, HORIZONTAL-00-01, HORIZONTAL-00-02",
    "1F034 DOMINO TILE: HORIZONTAL-00-03, HORIZONTAL-00-04, HORIZONTAL-00-05, HORIZONTAL-00-06",
    "1F038 DOMINO TILE: HORIZONTAL-01-00, HORIZONTAL-01-01, HORIZONTAL-01-02, HORIZONTAL-01-03",
    "1F03C DOMINO TILE: HORIZONTAL-01-04, HORIZONTAL-01-05, HORIZONTAL-01-06, HORIZONTAL-02-00",
    "1F040 DOMINO TILE: HORIZONTAL-02-01, HORIZONTAL-02-02, HORIZONTAL-02-03, HORIZONTAL-02-04",
    "1F044 DOMINO TILE: HORIZONTAL-02-05, HORIZONTAL-02-06, HORIZONTAL-03-00, HORIZONTAL-03-01",
    "1F048 DOMINO TILE: HORIZONTAL-03-02, HORIZONTAL-03-03, HORIZONTAL-03-04, HORIZONTAL-03-05",
    "1F04C DOMINO TILE: HORIZONTAL-03-06, HORIZONTAL-04-00, HORIZONTAL-04-01, HORIZONTAL-04-02",
    "1F050 DOMINO TILE: HORIZONTAL-04-03, HORIZONTAL-04-04, HORIZONTAL-04-05, HORIZONTAL-04-06",
    "1F054 DOMINO TILE: HORIZONTAL-05-00, HORIZONTAL-05-01, HORIZONTAL-05-02, HORIZONTAL-05-03",
    "1F058 DOMINO TILE: HORIZONTAL-05-04, HORIZONTAL-05-05, HORIZONTAL-05-06, HORIZONTAL-06-00",
    "1F05C DOMINO TILE: HORIZONTAL-06-01, HORIZONTAL-06-02, HORIZONTAL-06-03, HORIZONTAL-06-04",
    "1F060 DOMINO TILE: HORIZONTAL-06-05, HORIZONTAL-06-06, VERTICAL BACK, VERTICAL-00-00, VERTICAL-00-01",
    "1F065 DOMINO TILE: VERTICAL-00-02, VERTICAL-00-03, VERTICAL-00-04, VERTICAL-00-05, VERTICAL-00-06",
    "1F06A DOMINO TILE: VERTICAL-01-00, VERTICAL-01-01, VERTICAL-01-02, VERTICAL-01-03, VERTICAL-01-04",
    "1F06F DOMINO TILE: VERTICAL-01-05, VERTICAL-01-06, VERTICAL-02-00, VERTICAL-02-01, VERTICAL-02-02",
    "1F074 DOMINO TILE: VERTICAL-02-03, VERTICAL-02-04, VERTICAL-02-05, VERTICAL-02-06, VERTICAL-03-00",
    "1F079 DOMINO TILE: VERTICAL-03-01, VERTICAL-03-02, VERTICAL-03-03, VERTICAL-03-04, VERTICAL-03-05",
    "1F07E DOMINO TILE: VERTICAL-03-06, VERTICAL-04-00, VERTICAL-04-01, VERTICAL-04-02, VERTICAL-04-03",
    "1F083 DOMINO TILE: VERTICAL-04-04, VERTICAL-04-05, VERTICAL-04-06, VERTICAL-05-00, VERTICAL-05-01",
    "1F088 DOMINO TILE: VERTICAL-05-02, VERTICAL-05-03, VERTICAL-05-04, VERTICAL-05-05, VERTICAL-05-06",
    "1F08D DOMINO TILE: VERTICAL-06-00, VERTICAL-06-01, VERTICAL-06-02, VERTICAL-06-03, VERTICAL-06-04",
    "1F092 DOMINO TILE: VERTICAL-06-05, VERTICAL-06-06",
    "1F0A0 PLAYING CARD: BACK, ACE OF SPADES, TWO OF SPADES, THREE OF SPADES, FOUR OF SPADES, FIVE OF SPADES",
    "1F0A6 PLAYING CARD: SIX OF SPADES, SEVEN OF SPADES, EIGHT OF SPADES, NINE OF SPADES, TEN OF SPADES",
    "1F0AB PLAYING CARD: JACK OF SPADES, KNIGHT OF SPADES, QUEEN OF SPADES, KING OF SPADES",
    "1F0B1 PLAYING CARD: ACE OF HEARTS, TWO OF HEARTS, THREE OF HEARTS, FOUR OF HEARTS, FIVE OF HEARTS",
    "1F0B6 PLAYING CARD: SIX OF HEARTS, SEVEN OF HEARTS, EIGHT OF HEARTS, NINE OF HEARTS, TEN OF HEARTS",
    "1F0BB PLAYING CARD: JACK OF HEARTS, KNIGHT OF HEARTS, QUEEN OF HEARTS, KING OF HEARTS, RED JOKER",
    "1F0C1 PLAYING CARD: ACE OF DIAMONDS, TWO OF DIAMONDS, THREE OF DIAMONDS, FOUR OF DIAMONDS",
    "1F0C5 PLAYING CARD: FIVE OF DIAMONDS, SIX OF DIAMONDS, SEVEN OF DIAMONDS, EIGHT OF DIAMONDS",
    "1F0C9 PLAYING CARD: NINE OF DIAMONDS, TEN OF DIAMONDS, JACK OF DIAMONDS, KNIGHT OF DIAMONDS",
    "1F0CD PLAYING CARD: QUEEN OF DIAMONDS, KING OF DIAMONDS, BLACK JOKER",
    "1F0D1 PLAYING CARD: ACE OF CLUBS, TWO OF CLUBS, THREE OF CLUBS, FOUR OF CLUBS, FIVE OF CLUBS",
    "1F0D6 PLAYING CARD: SIX OF CLUBS, SEVEN OF CLUBS, EIGHT OF CLUBS, NINE OF CLUBS, TEN OF CLUBS",
    "1F0DB PLAYING CARD: JACK OF CLUBS, KNIGHT OF CLUBS, QUEEN OF CLUBS, KING OF CLUBS, WHITE JOKER, FOOL",
    "1F0E1 PLAYING CARD: TRUMP-1, TRUMP-2, TRUMP-3, TRUMP-4, TRUMP-5, TRUMP-6, TRUMP-7, TRUMP-8, TRUMP-9",
    "1F0EA PLAYING CARD: TRUMP-10, TRUMP-11, TRUMP-12, TRUMP-13, TRUMP-14, TRUMP-15, TRUMP-16, TRUMP-17",
    "1F0F2 PLAYING CARD: TRUMP-18, TRUMP-19, TRUMP-20, TRUMP-21",
    "1F100 DIGIT: ZERO FULL STOP, ZERO COMMA, ONE COMMA, TWO COMMA, THREE COMMA, FOUR COMMA, FIVE COMMA",
    "1F107 DIGIT: SIX COMMA, SEVEN COMMA, EIGHT COMMA, NINE COMMA",
    "1F10B DINGBAT: CIRCLED SANS-SERIF DIGIT ZERO, NEGATIVE CIRCLED SANS-SERIF DIGIT ZERO",
    "1F10D CIRCLED: ZERO WITH SLASH, ANTICLOCKWISE ARROW, DOLLAR SIGN WITH OVERLAID BACKSLASH",
    "1F110 PARENTHESIZED LATIN CAPITAL LETTER: A, B, C, D, E, F, G, H, I, J, K, L, M, N, O, P, Q, R, S, T, U",
    "1F125 PARENTHESIZED LATIN CAPITAL LETTER: V, W, X, Y, Z",
    "1F12A TORTOISE SHELL BRACKETED LATIN CAPITAL LETTER: S; 1F12B CIRCLED ITALIC LATIN CAPITAL LETTER: C, R",
    "1F12D CIRCLED: CD, WZ; 1F12F COPYLEFT: SYMBOL",
    "1F130 SQUARED LATIN CAPITAL LETTER: A, B, C, D, E, F, G, H, I, J, K, L, M, N, O, P, Q, R, S, T, U, V, W",
    "1F147 SQUARED LATIN CAPITAL LETTER: X, Y, Z; 1F14A SQUARED: HV, MV, SD, SS, PPV, WC",
    "1F150 NEGATIVE CIRCLED LATIN CAPITAL LETTER: A, B, C, D, E, F, G, H, I, J, K, L, M, N, O, P, Q, R, S, T",
    "1F164 NEGATIVE CIRCLED LATIN CAPITAL LETTER: U, V, W, X, Y, Z; 1F16A RAISED: MC SIGN, MD SIGN, MR SIGN",
    "1F16D CIRCLED: CC, C WITH OVERLAID BACKSLASH, HUMAN FIGURE",
    "1F170 NEGATIVE SQUARED LATIN CAPITAL LETTER: A, B, C, D, E, F, G, H, I, J, K, L, M, N, O, P, Q, R, S, T",
    "1F184 NEGATIVE SQUARED LATIN CAPITAL LETTER: U, V, W, X, Y, Z",
    "1F18A CROSSED NEGATIVE SQUARED LATIN CAPITAL LETTER: P; 1F18B NEGATIVE SQUARED: IC, PA, SA, AB, WC",
    "1F190 SQUARE: DJ",
    "1F191 SQUARED: CL, COOL, FREE, ID, NEW, NG, OK, SOS, UP WITH EXCLAMATION MARK, VS, THREE D",
    "1F19C SQUARED: SECOND SCREEN, TWO K, FOUR K, EIGHT K, FIVE POINT ONE, SEVEN POINT ONE",
    "1F1A2 SQUARED: TWENTY-TWO POINT TWO, SIXTY P, ONE HUNDRED TWENTY P, LATIN SMALL LETTER D, HC, HDR",
    "1F1A8 SQUARED: HI-RES, LOSSLESS, SHV, UHD, VOD; 1F1AD MASK WORK: SYMBOL",
    "1F1E6 REGIONAL INDICATOR SYMBOL LETTER: A, B, C, D, E, F, G, H, I, J, K, L, M, N, O, P, Q, R, S, T, U, V",
    "1F1FC REGIONAL INDICATOR SYMBOL LETTER: W, X, Y, Z; 1F200 SQUARE HIRAGANA: HOKA",
    "1F201 SQUARED KATAKANA: KOKO, SA",
    "1F210 SQUARED CJK UNIFIED: IDEOGRAPH-624B, IDEOGRAPH-5B57, IDEOGRAPH-53CC; 1F213 SQUARED KATAKANA: DE",
    "1F214 SQUARED CJK UNIFIED: IDEOGRAPH-4E8C, IDEOGRAPH-591A, IDEOGRAPH-89E3, IDEOGRAPH-5929",
    "1F218 SQUARED CJK UNIFIED: IDEOGRAPH-4EA4, IDEOGRAPH-6620, IDEOGRAPH-7121, IDEOGRAPH-6599",
    "1F21C SQUARED CJK UNIFIED: IDEOGRAPH-524D, IDEOGRAPH-5F8C, IDEOGRAPH-518D, IDEOGRAPH-65B0",
    "1F220 SQUARED CJK UNIFIED: IDEOGRAPH-521D, IDEOGRAPH-7D42, IDEOGRAPH-751F, IDEOGRAPH-8CA9",
    "1F224 SQUARED CJK UNIFIED: IDEOGRAPH-58F0, IDEOGRAPH-5439, IDEOGRAPH-6F14, IDEOGRAPH-6295",
    "1F228 SQUARED CJK UNIFIED: IDEOGRAPH-6355, IDEOGRAPH-4E00, IDEOGRAPH-4E09, IDEOGRAPH-904A",
    "1F22C SQUARED CJK UNIFIED: IDEOGRAPH-5DE6, IDEOGRAPH-4E2D, IDEOGRAPH-53F3, IDEOGRAPH-6307",
    "1F230 SQUARED CJK UNIFIED: IDEOGRAPH-8D70, IDEOGRAPH-6253, IDEOGRAPH-7981, IDEOGRAPH-7A7A",
    "1F234 SQUARED CJK UNIFIED: IDEOGRAPH-5408, IDEOGRAPH-6E80, IDEOGRAPH-6709, IDEOGRAPH-6708",
    "1F238 SQUARED CJK UNIFIED: IDEOGRAPH-7533, IDEOGRAPH-5272, IDEOGRAPH-55B6, IDEOGRAPH-914D",
    "1F240 TORTOISE SHELL BRACKETED CJK UNIFIED: IDEOGRAPH-672C, IDEOGRAPH-4E09, IDEOGRAPH-4E8C",
    "1F243 TORTOISE SHELL BRACKETED CJK UNIFIED: IDEOGRAPH-5B89, IDEOGRAPH-70B9, IDEOGRAPH-6253",
    "1F246 TORTOISE SHELL BRACKETED CJK UNIFIED: IDEOGRAPH-76D7, IDEOGRAPH-52DD, IDEOGRAPH-6557",
    "1F250 CIRCLED IDEOGRAPH: ADVANTAGE, ACCEPT; 1F260 ROUNDED SYMBOL FOR: FU, LU, SHOU, XI, SHUANGXI, CAI",
    "1F300: CYCLONE, FOGGY, CLOSED UMBRELLA, NIGHT WITH STARS, SUNRISE OVER MOUNTAINS, SUNRISE",
    "1F306: CITYSCAPE AT DUSK, SUNSET OVER BUILDINGS, RAINBOW, BRIDGE AT NIGHT, WATER WAVE, VOLCANO",
    "1F30C: MILKY WAY; 1F30D EARTH GLOBE: EUROPE-AFRICA, AMERICAS, ASIA-AUSTRALIA",
    "1F310: GLOBE WITH MERIDIANS, NEW MOON SYMBOL, WAXING CRESCENT MOON SYMBOL, FIRST QUARTER MOON SYMBOL",
    "1F314: WAXING GIBBOUS MOON SYMBOL, FULL MOON SYMBOL, WANING GIBBOUS MOON SYMBOL",
    "1F317: LAST QUARTER MOON SYMBOL, WANING CRESCENT MOON SYMBOL, CRESCENT MOON, NEW MOON WITH FACE",
    "1F31B: FIRST QUARTER MOON WITH FACE, LAST QUARTER MOON WITH FACE, FULL MOON WITH FACE, SUN WITH FACE",
    "1F31F: GLOWING STAR, SHOOTING STAR, THERMOMETER, BLACK DROPLET, WHITE SUN",
    "1F324 WHITE SUN: WITH SMALL CLOUD, BEHIND CLOUD, BEHIND CLOUD WITH RAIN",
    "1F327 CLOUD WITH: RAIN, SNOW, LIGHTNING, TORNADO",
    "1F32B: FOG, WIND BLOWING FACE, HOT DOG, TACO, BURRITO, CHESTNUT, SEEDLING, EVERGREEN TREE",
    "1F333: DECIDUOUS TREE, PALM TREE, CACTUS, HOT PEPPER, TULIP, CHERRY BLOSSOM, ROSE, HIBISCUS, SUNFLOWER",
    "1F33C: BLOSSOM, EAR OF MAIZE, EAR OF RICE, HERB, FOUR LEAF CLOVER, MAPLE LEAF, FALLEN LEAF",
    "1F343: LEAF FLUTTERING IN WIND, MUSHROOM, TOMATO, AUBERGINE, GRAPES, MELON, WATERMELON, TANGERINE, LEMON",
    "1F34C: BANANA, PINEAPPLE, RED APPLE, GREEN APPLE, PEAR, PEACH, CHERRIES, STRAWBERRY, HAMBURGER",
    "1F355: SLICE OF PIZZA, MEAT ON BONE, POULTRY LEG, RICE CRACKER, RICE BALL, COOKED RICE, CURRY AND RICE",
    "1F35C: STEAMING BOWL, SPAGHETTI, BREAD, FRENCH FRIES, ROASTED SWEET POTATO, DANGO, ODEN, SUSHI",
    "1F364: FRIED SHRIMP, FISH CAKE WITH SWIRL DESIGN, SOFT ICE CREAM, SHAVED ICE, ICE CREAM, DOUGHNUT",
    "1F36A: COOKIE, CHOCOLATE BAR, CANDY, LOLLIPOP, CUSTARD, HONEY POT, SHORTCAKE, BENTO BOX, POT OF FOOD",
    "1F373: COOKING, FORK AND KNIFE, TEACUP WITHOUT HANDLE, SAKE BOTTLE AND CUP, WINE GLASS, COCKTAIL GLASS",
    "1F379: TROPICAL DRINK, BEER MUG, CLINKING BEER MUGS, BABY BOTTLE, FORK AND KNIFE WITH PLATE",
    "1F37E: BOTTLE WITH POPPING CORK, POPCORN, RIBBON, WRAPPED PRESENT, BIRTHDAY CAKE, JACK-O-LANTERN",
    "1F384: CHRISTMAS TREE, FATHER CHRISTMAS, FIREWORKS, FIREWORK SPARKLER, BALLOON, PARTY POPPER",
    "1F38A: CONFETTI BALL, TANABATA TREE, CROSSED FLAGS, PINE DECORATION, JAPANESE DOLLS, CARP STREAMER",
    "1F390: WIND CHIME, MOON VIEWING CEREMONY, SCHOOL SATCHEL, GRADUATION CAP, HEART WITH TIP ON THE LEFT",
    "1F395: BOUQUET OF FLOWERS, MILITARY MEDAL, REMINDER RIBBON, MUSICAL KEYBOARD WITH JACKS",
    "1F399: STUDIO MICROPHONE, LEVEL SLIDER, CONTROL KNOBS, BEAMED ASCENDING MUSICAL NOTES",
    "1F39D: BEAMED DESCENDING MUSICAL NOTES, FILM FRAMES, ADMISSION TICKETS, CAROUSEL HORSE, FERRIS WHEEL",
    "1F3A2: ROLLER COASTER, FISHING POLE AND FISH, MICROPHONE, MOVIE CAMERA, CINEMA, HEADPHONE",
    "1F3A8: ARTIST PALETTE, TOP HAT, CIRCUS TENT, TICKET, CLAPPER BOARD, PERFORMING ARTS, VIDEO GAME",
    "1F3AF: DIRECT HIT, SLOT MACHINE, BILLIARDS, GAME DIE, BOWLING, FLOWER PLAYING CARDS, MUSICAL NOTE",
    "1F3B6: MULTIPLE MUSICAL NOTES, SAXOPHONE, GUITAR, MUSICAL KEYBOARD, TRUMPET, VIOLIN, MUSICAL SCORE",
    "1F3BD: RUNNING SHIRT WITH SASH, TENNIS RACQUET AND BALL, SKI AND SKI BOOT, BASKETBALL AND HOOP",
    "1F3C1: CHEQUERED FLAG, SNOWBOARDER, RUNNER, SURFER, SPORTS MEDAL, TROPHY, HORSE RACING",
    "1F3C8: AMERICAN FOOTBALL, RUGBY FOOTBALL, SWIMMER, WEIGHT LIFTER, GOLFER, RACING MOTORCYCLE, RACING CAR",
    "1F3CF: CRICKET BAT AND BALL, VOLLEYBALL, FIELD HOCKEY STICK AND BALL, ICE HOCKEY STICK AND PUCK",
    "1F3D3: TABLE TENNIS PADDLE AND BALL, SNOW CAPPED MOUNTAIN, CAMPING, BEACH WITH UMBRELLA",
    "1F3D7: BUILDING CONSTRUCTION, HOUSE BUILDINGS, CITYSCAPE, DERELICT HOUSE BUILDING, CLASSICAL BUILDING",
    "1F3DC: DESERT, DESERT ISLAND, NATIONAL PARK, STADIUM, HOUSE BUILDING, HOUSE WITH GARDEN, OFFICE BUILDING",
    "1F3E3: JAPANESE POST OFFICE, EUROPEAN POST OFFICE, HOSPITAL, BANK, AUTOMATED TELLER MACHINE, HOTEL",
    "1F3E9: LOVE HOTEL, CONVENIENCE STORE, SCHOOL, DEPARTMENT STORE, FACTORY, IZAKAYA LANTERN",
    "1F3EF: JAPANESE CASTLE, EUROPEAN CASTLE, WHITE PENNANT, BLACK PENNANT, WAVING WHITE FLAG",
    "1F3F4: WAVING BLACK FLAG, ROSETTE, BLACK ROSETTE, LABEL, BADMINTON RACQUET AND SHUTTLECOCK",
    "1F3F9: BOW AND ARROW, AMPHORA",
    "1F3FB EMOJI MODIFIER FITZPATRICK: TYPE-1-2, TYPE-3, TYPE-4, TYPE-5, TYPE-6",
    "1F400: RAT, MOUSE, OX, WATER BUFFALO, COW, TIGER, LEOPARD, RABBIT, CAT, DRAGON, CROCODILE, WHALE, SNAIL",
    "1F40D: SNAKE, HORSE, RAM, GOAT, SHEEP, MONKEY, ROOSTER, CHICKEN, DOG, PIG, BOAR, ELEPHANT, OCTOPUS",
    "1F41A: SPIRAL SHELL, BUG, ANT, HONEYBEE, LADY BEETLE, FISH, TROPICAL FISH, BLOWFISH, TURTLE",
    "1F423: HATCHING CHICK, BABY CHICK, FRONT-FACING BABY CHICK, BIRD, PENGUIN, KOALA, POODLE",
    "1F42A: DROMEDARY CAMEL, BACTRIAN CAMEL, DOLPHIN, MOUSE FACE, COW FACE, TIGER FACE, RABBIT FACE, CAT FACE",
    "1F432: DRAGON FACE, SPOUTING WHALE, HORSE FACE, MONKEY FACE, DOG FACE, PIG FACE, FROG FACE, HAMSTER FACE",
    "1F43A: WOLF FACE, BEAR FACE, PANDA FACE, PIG NOSE, PAW PRINTS, CHIPMUNK, EYES, EYE, EAR, NOSE, MOUTH",
    "1F445: TONGUE",
    "1F446 WHITE: UP POINTING BACKHAND INDEX, DOWN POINTING BACKHAND INDEX, LEFT POINTING BACKHAND INDEX",
    "1F449 WHITE: RIGHT POINTING BACKHAND INDEX",
    "1F44A: FISTED HAND SIGN, WAVING HAND SIGN, OK HAND SIGN, THUMBS UP SIGN, THUMBS DOWN SIGN",
    "1F44F: CLAPPING HANDS SIGN, OPEN HANDS SIGN, CROWN, WOMANS HAT, EYEGLASSES, NECKTIE, T-SHIRT, JEANS",
    "1F457: DRESS, KIMONO, BIKINI, WOMANS CLOTHES, PURSE, HANDBAG, POUCH, MANS SHOE, ATHLETIC SHOE",
    "1F460: HIGH-HEELED SHOE, WOMANS SANDAL, WOMANS BOOTS, FOOTPRINTS, BUST IN SILHOUETTE",
    "1F465: BUSTS IN SILHOUETTE, BOY, GIRL, MAN, WOMAN, FAMILY, MAN AND WOMAN HOLDING HANDS",
    "1F46C: TWO MEN HOLDING HANDS, TWO WOMEN HOLDING HANDS, POLICE OFFICER, WOMAN WITH BUNNY EARS",
    "1F470: BRIDE WITH VEIL, PERSON WITH BLOND HAIR, MAN WITH GUA PI MAO, MAN WITH TURBAN, OLDER MAN",
    "1F475: OLDER WOMAN, BABY, CONSTRUCTION WORKER, PRINCESS, JAPANESE OGRE, JAPANESE GOBLIN, GHOST",
    "1F47C: BABY ANGEL, EXTRATERRESTRIAL ALIEN, ALIEN MONSTER, IMP, SKULL, INFORMATION DESK PERSON, GUARDSMAN",
    "1F483: DANCER, LIPSTICK, NAIL POLISH, FACE MASSAGE, HAIRCUT, BARBER POLE, SYRINGE, PILL, KISS MARK",
    "1F48C: LOVE LETTER, RING, GEM STONE, KISS, BOUQUET, COUPLE WITH HEART, WEDDING, BEATING HEART",
    "1F494: BROKEN HEART, TWO HEARTS, SPARKLING HEART, GROWING HEART, HEART WITH ARROW, BLUE HEART",
    "1F49A: GREEN HEART, YELLOW HEART, PURPLE HEART, HEART WITH RIBBON, REVOLVING HEARTS, HEART DECORATION",
    "1F4A0: DIAMOND SHAPE WITH A DOT INSIDE, ELECTRIC LIGHT BULB, ANGER SYMBOL, BOMB, SLEEPING SYMBOL",
    "1F4A5: COLLISION SYMBOL, SPLASHING SWEAT SYMBOL, DROPLET, DASH SYMBOL, PILE OF POO, FLEXED BICEPS",
    "1F4AB: DIZZY SYMBOL, SPEECH BALLOON, THOUGHT BALLOON, WHITE FLOWER, HUNDRED POINTS SYMBOL, MONEY BAG",
    "1F4B1: CURRENCY EXCHANGE, HEAVY DOLLAR SIGN, CREDIT CARD",
    "1F4B4 BANKNOTE WITH: YEN SIGN, DOLLAR SIGN, EURO SIGN, POUND SIGN",
    "1F4B8: MONEY WITH WINGS, CHART WITH UPWARDS TREND AND YEN SIGN, SEAT, PERSONAL COMPUTER, BRIEFCASE",
    "1F4BD: MINIDISC, FLOPPY DISK, OPTICAL DISC, DVD, FILE FOLDER, OPEN FILE FOLDER, PAGE WITH CURL",
    "1F4C4: PAGE FACING UP, CALENDAR, TEAR-OFF CALENDAR, CARD INDEX, CHART WITH UPWARDS TREND",
    "1F4C9: CHART WITH DOWNWARDS TREND, BAR CHART, CLIPBOARD, PUSHPIN, ROUND PUSHPIN, PAPERCLIP",
    "1F4CF: STRAIGHT RULER, TRIANGULAR RULER, BOOKMARK TABS, LEDGER, NOTEBOOK, NOTEBOOK WITH DECORATIVE COVER",
    "1F4D5: CLOSED BOOK, OPEN BOOK, GREEN BOOK, BLUE BOOK, ORANGE BOOK, BOOKS, NAME BADGE, SCROLL, MEMO",
    "1F4DE: TELEPHONE RECEIVER, PAGER, FAX MACHINE, SATELLITE ANTENNA, PUBLIC ADDRESS LOUDSPEAKER",
    "1F4E3: CHEERING MEGAPHONE, OUTBOX TRAY, INBOX TRAY, PACKAGE, E-MAIL SYMBOL, INCOMING ENVELOPE",
    "1F4E9: ENVELOPE WITH DOWNWARDS ARROW ABOVE; 1F4EA CLOSED MAILBOX WITH: LOWERED FLAG, RAISED FLAG",
    "1F4EC OPEN MAILBOX WITH: RAISED FLAG, LOWERED FLAG",
    "1F4EE: POSTBOX, POSTAL HORN, NEWSPAPER, MOBILE PHONE, MOBILE PHONE WITH RIGHTWARDS ARROW AT LEFT",
    "1F4F3: VIBRATION MODE, MOBILE PHONE OFF, NO MOBILE PHONES, ANTENNA WITH BARS, CAMERA, CAMERA WITH FLASH",
    "1F4F9: VIDEO CAMERA, TELEVISION, RADIO, VIDEOCASSETTE, FILM PROJECTOR, PORTABLE STEREO, PRAYER BEADS",
    "1F500: TWISTED RIGHTWARDS ARROWS",
    "1F501 CLOCKWISE RIGHTWARDS AND LEFTWARDS OPEN CIRCLE: ARROWS, ARROWS WITH CIRCLED ONE OVERLAY",
    "1F503: CLOCKWISE DOWNWARDS AND UPWARDS OPEN CIRCLE ARROWS",
    "1F504: ANTICLOCKWISE DOWNWARDS AND UPWARDS OPEN CIRCLE ARROWS, LOW BRIGHTNESS SYMBOL",
    "1F506: HIGH BRIGHTNESS SYMBOL, SPEAKER WITH CANCELLATION STROKE, SPEAKER, SPEAKER WITH ONE SOUND WAVE",
    "1F50A: SPEAKER WITH THREE SOUND WAVES, BATTERY, ELECTRIC PLUG, LEFT-POINTING MAGNIFYING GLASS",
    "1F50E: RIGHT-POINTING MAGNIFYING GLASS, LOCK WITH INK PEN, CLOSED LOCK WITH KEY, KEY, LOCK, OPEN LOCK",
    "1F514: BELL, BELL WITH CANCELLATION STROKE, BOOKMARK, LINK SYMBOL, RADIO BUTTON",
    "1F519: BACK WITH LEFTWARDS ARROW ABOVE, END WITH LEFTWARDS ARROW ABOVE",
    "1F51B: ON WITH EXCLAMATION MARK WITH LEFT RIGHT ARROW ABOVE, SOON WITH RIGHTWARDS ARROW ABOVE",
    "1F51D: TOP WITH UPWARDS ARROW ABOVE, NO ONE UNDER EIGHTEEN SYMBOL, KEYCAP TEN",
    "1F520 INPUT SYMBOL FOR: LATIN CAPITAL LETTERS, LATIN SMALL LETTERS, NUMBERS, SYMBOLS, LATIN LETTERS",
    "1F525: FIRE, ELECTRIC TORCH, WRENCH, HAMMER, NUT AND BOLT, HOCHO, PISTOL, MICROSCOPE, TELESCOPE",
    "1F52E: CRYSTAL BALL, SIX POINTED STAR WITH MIDDLE DOT, JAPANESE SYMBOL FOR BEGINNER, TRIDENT EMBLEM",
    "1F532: BLACK SQUARE BUTTON, WHITE SQUARE BUTTON",
    "1F534 LARGE: RED CIRCLE, BLUE CIRCLE, ORANGE DIAMOND, BLUE DIAMOND",
    "1F538: SMALL ORANGE DIAMOND, SMALL BLUE DIAMOND, UP-POINTING RED TRIANGLE, DOWN-POINTING RED TRIANGLE",
    "1F53C: UP-POINTING SMALL RED TRIANGLE, DOWN-POINTING SMALL RED TRIANGLE",
    "1F53E: LOWER RIGHT SHADOWED WHITE CIRCLE, UPPER RIGHT SHADOWED WHITE CIRCLE, CIRCLED CROSS POMMEE",
    "1F541: CROSS POMMEE WITH HALF-CIRCLE BELOW, CROSS POMMEE, NOTCHED LEFT SEMICIRCLE WITH THREE DOTS",
    "1F544: NOTCHED RIGHT SEMICIRCLE WITH THREE DOTS, SYMBOL FOR MARKS CHAPTER, WHITE LATIN CROSS",
    "1F547: HEAVY LATIN CROSS, CELTIC CROSS, OM SYMBOL, DOVE OF PEACE, KAABA, MOSQUE, SYNAGOGUE",
    "1F54E: MENORAH WITH NINE BRANCHES, BOWL OF HYGIEIA",
    "1F550 CLOCK FACE: ONE OCLOCK, TWO OCLOCK, THREE OCLOCK, FOUR OCLOCK, FIVE OCLOCK, SIX OCLOCK",
    "1F556 CLOCK FACE: SEVEN OCLOCK, EIGHT OCLOCK, NINE OCLOCK, TEN OCLOCK, ELEVEN OCLOCK, TWELVE OCLOCK",
    "1F55C CLOCK FACE: ONE-THIRTY, TWO-THIRTY, THREE-THIRTY, FOUR-THIRTY, FIVE-THIRTY, SIX-THIRTY",
    "1F562 CLOCK FACE: SEVEN-THIRTY, EIGHT-THIRTY, NINE-THIRTY, TEN-THIRTY, ELEVEN-THIRTY, TWELVE-THIRTY",
    "1F568 RIGHT: SPEAKER, SPEAKER WITH ONE SOUND WAVE, SPEAKER WITH THREE SOUND WAVES",
    "1F56B: BULLHORN, BULLHORN WITH SOUND WAVES, RINGING BELL, BOOK, CANDLE, MANTELPIECE CLOCK",
    "1F571: BLACK SKULL AND CROSSBONES, NO PIRACY, HOLE, MAN IN BUSINESS SUIT LEVITATING, SLEUTH OR SPY",
    "1F576: DARK SUNGLASSES, SPIDER, SPIDER WEB, JOYSTICK, MAN DANCING, LEFT HAND TELEPHONE RECEIVER",
    "1F57C: TELEPHONE RECEIVER WITH PAGE, RIGHT HAND TELEPHONE RECEIVER, WHITE TOUCHTONE TELEPHONE",
    "1F57F: BLACK TOUCHTONE TELEPHONE, TELEPHONE ON TOP OF MODEM, CLAMSHELL MOBILE PHONE, BACK OF ENVELOPE",
    "1F583: STAMPED ENVELOPE, ENVELOPE WITH LIGHTNING, FLYING ENVELOPE, PEN OVER STAMPED ENVELOPE",
    "1F587: LINKED PAPERCLIPS, BLACK PUSHPIN",
    "1F589 LOWER LEFT: PENCIL, BALLPOINT PEN, FOUNTAIN PEN, PAINTBRUSH, CRAYON",
    "1F58E: LEFT WRITING HAND, TURNED OK HAND SIGN, RAISED HAND WITH FINGERS SPLAYED",
    "1F591 REVERSED: RAISED HAND WITH FINGERS SPLAYED, THUMBS UP SIGN, THUMBS DOWN SIGN, VICTORY HAND",
    "1F595 REVERSED: HAND WITH MIDDLE FINGER EXTENDED",
    "1F596: RAISED HAND WITH PART BETWEEN MIDDLE AND RING FINGERS, WHITE DOWN POINTING LEFT HAND INDEX",
    "1F598 SIDEWAYS: WHITE LEFT POINTING INDEX, WHITE RIGHT POINTING INDEX, BLACK LEFT POINTING INDEX",
    "1F59B SIDEWAYS: BLACK RIGHT POINTING INDEX",
    "1F59C BLACK: LEFT POINTING BACKHAND INDEX, RIGHT POINTING BACKHAND INDEX",
    "1F59E SIDEWAYS: WHITE UP POINTING INDEX, WHITE DOWN POINTING INDEX, BLACK UP POINTING INDEX",
    "1F5A1 SIDEWAYS: BLACK DOWN POINTING INDEX",
    "1F5A2 BLACK: UP POINTING BACKHAND INDEX, DOWN POINTING BACKHAND INDEX, HEART",
    "1F5A5: DESKTOP COMPUTER, KEYBOARD AND MOUSE, THREE NETWORKED COMPUTERS, PRINTER, POCKET CALCULATOR",
    "1F5AA: BLACK HARD SHELL FLOPPY DISK, WHITE HARD SHELL FLOPPY DISK, SOFT SHELL FLOPPY DISK",
    "1F5AD: TAPE CARTRIDGE, WIRED KEYBOARD, ONE BUTTON MOUSE, TWO BUTTON MOUSE, THREE BUTTON MOUSE, TRACKBALL",
    "1F5B3: OLD PERSONAL COMPUTER, HARD DISK, SCREEN, PRINTER ICON, FAX ICON, OPTICAL DISC ICON",
    "1F5B9 DOCUMENT WITH: TEXT, TEXT AND PICTURE, PICTURE; 1F5BC FRAME WITH: PICTURE, TILES, AN X",
    "1F5BF: BLACK FOLDER, FOLDER, OPEN FOLDER, CARD INDEX DIVIDERS, CARD FILE BOX, FILE CABINET, EMPTY NOTE",
    "1F5C6: EMPTY NOTE PAGE, EMPTY NOTE PAD, NOTE, NOTE PAGE, NOTE PAD, EMPTY DOCUMENT, EMPTY PAGE",
    "1F5CD: EMPTY PAGES, DOCUMENT, PAGE, PAGES, WASTEBASKET, SPIRAL NOTE PAD, SPIRAL CALENDAR PAD",
    "1F5D4: DESKTOP WINDOW, MINIMIZE, MAXIMIZE, OVERLAP, CLOCKWISE RIGHT AND LEFT SEMICIRCLE ARROWS",
    "1F5D9: CANCELLATION X, INCREASE FONT SIZE SYMBOL, DECREASE FONT SIZE SYMBOL, COMPRESSION, OLD KEY",
    "1F5DE: ROLLED-UP NEWSPAPER, PAGE WITH CIRCLED TEXT, STOCK CHART, DAGGER KNIFE, LIPS",
    "1F5E3: SPEAKING HEAD IN SILHOUETTE; 1F5E4 THREE RAYS: ABOVE, BELOW, LEFT, RIGHT",
    "1F5E8: LEFT SPEECH BUBBLE, RIGHT SPEECH BUBBLE, TWO SPEECH BUBBLES, THREE SPEECH BUBBLES",
    "1F5EC: LEFT THOUGHT BUBBLE, RIGHT THOUGHT BUBBLE, LEFT ANGER BUBBLE, RIGHT ANGER BUBBLE, MOOD BUBBLE",
    "1F5F1 LIGHTNING: MOOD BUBBLE, MOOD",
    "1F5F3 BALLOT: BOX WITH BALLOT, SCRIPT X, BOX WITH SCRIPT X, BOLD SCRIPT X, BOX WITH BOLD SCRIPT X",
    "1F5F8: LIGHT CHECK MARK, BALLOT BOX WITH BOLD CHECK, WORLD MAP, MOUNT FUJI, TOKYO TOWER",
    "1F5FD: STATUE OF LIBERTY, SILHOUETTE OF JAPAN, MOYAI, GRINNING FACE, GRINNING FACE WITH SMILING EYES",
    "1F602: FACE WITH TEARS OF JOY",
    "1F603 SMILING FACE WITH: OPEN MOUTH, OPEN MOUTH AND SMILING EYES, OPEN MOUTH AND COLD SWEAT",
    "1F606 SMILING FACE WITH: OPEN MOUTH AND TIGHTLY-CLOSED EYES, HALO, HORNS",
    "1F609: WINKING FACE, SMILING FACE WITH SMILING EYES, FACE SAVOURING DELICIOUS FOOD, RELIEVED FACE",
    "1F60D SMILING FACE WITH: HEART-SHAPED EYES, SUNGLASSES",
    "1F60F: SMIRKING FACE, NEUTRAL FACE, EXPRESSIONLESS FACE, UNAMUSED FACE, FACE WITH COLD SWEAT",
    "1F614: PENSIVE FACE, CONFUSED FACE, CONFOUNDED FACE, KISSING FACE, FACE THROWING A KISS",
    "1F619 KISSING FACE WITH: SMILING EYES, CLOSED EYES",
    "1F61B FACE WITH STUCK-OUT: TONGUE, TONGUE AND WINKING EYE, TONGUE AND TIGHTLY-CLOSED EYES",
    "1F61E: DISAPPOINTED FACE, WORRIED FACE, ANGRY FACE, POUTING FACE, CRYING FACE, PERSEVERING FACE",
    "1F624: FACE WITH LOOK OF TRIUMPH, DISAPPOINTED BUT RELIEVED FACE, FROWNING FACE WITH OPEN MOUTH",
    "1F627: ANGUISHED FACE, FEARFUL FACE, WEARY FACE, SLEEPY FACE, TIRED FACE, GRIMACING FACE",
    "1F62D: LOUDLY CRYING FACE, FACE WITH OPEN MOUTH, HUSHED FACE, FACE WITH OPEN MOUTH AND COLD SWEAT",
    "1F631: FACE SCREAMING IN FEAR, ASTONISHED FACE, FLUSHED FACE, SLEEPING FACE, DIZZY FACE",
    "1F636: FACE WITHOUT MOUTH, FACE WITH MEDICAL MASK, GRINNING CAT FACE WITH SMILING EYES",
    "1F639: CAT FACE WITH TEARS OF JOY; 1F63A SMILING CAT FACE WITH: OPEN MOUTH, HEART-SHAPED EYES",
    "1F63C: CAT FACE WITH WRY SMILE, KISSING CAT FACE WITH CLOSED EYES, POUTING CAT FACE, CRYING CAT FACE",
    "1F640: WEARY CAT FACE, SLIGHTLY FROWNING FACE, SLIGHTLY SMILING FACE, UPSIDE-DOWN FACE",
    "1F644 FACE WITH: ROLLING EYES, NO GOOD GESTURE, OK GESTURE",
    "1F647: PERSON BOWING DEEPLY, SEE-NO-EVIL MONKEY, HEAR-NO-EVIL MONKEY, SPEAK-NO-EVIL MONKEY",
    "1F64B: HAPPY PERSON RAISING ONE HAND",
    "1F64C PERSON: RAISING BOTH HANDS IN CELEBRATION, FROWNING, WITH POUTING FACE, WITH FOLDED HANDS",
    "1F650: NORTH WEST POINTING LEAF, SOUTH WEST POINTING LEAF, NORTH EAST POINTING LEAF",
    "1F653: SOUTH EAST POINTING LEAF",
    "1F654 TURNED: NORTH WEST POINTING LEAF, SOUTH WEST POINTING LEAF, NORTH EAST POINTING LEAF",
    "1F657 TURNED: SOUTH EAST POINTING LEAF",
    "1F658: NORTH WEST POINTING VINE LEAF, SOUTH WEST POINTING VINE LEAF, NORTH EAST POINTING VINE LEAF",
    "1F65B: SOUTH EAST POINTING VINE LEAF",
    "1F65C HEAVY: NORTH WEST POINTING VINE LEAF, SOUTH WEST POINTING VINE LEAF, NORTH EAST POINTING VINE LEAF",
    "1F65F HEAVY: SOUTH EAST POINTING VINE LEAF",
    "1F660: NORTH WEST POINTING BUD, SOUTH WEST POINTING BUD, NORTH EAST POINTING BUD",
    "1F663: SOUTH EAST POINTING BUD",
    "1F664 HEAVY: NORTH WEST POINTING BUD, SOUTH WEST POINTING BUD, NORTH EAST POINTING BUD",
    "1F667 HEAVY: SOUTH EAST POINTING BUD; 1F668 HOLLOW QUILT SQUARE: ORNAMENT, ORNAMENT IN BLACK SQUARE",
    "1F66A SOLID QUILT SQUARE: ORNAMENT, ORNAMENT IN BLACK SQUARE",
    "1F66C: LEFTWARDS ROCKET, UPWARDS ROCKET, RIGHTWARDS ROCKET, DOWNWARDS ROCKET",
    "1F670: SCRIPT LIGATURE ET ORNAMENT, HEAVY SCRIPT LIGATURE ET ORNAMENT, LIGATURE OPEN ET ORNAMENT",
    "1F673: HEAVY LIGATURE OPEN ET ORNAMENT, HEAVY AMPERSAND ORNAMENT, SWASH AMPERSAND ORNAMENT",
    "1F676 SANS-SERIF HEAVY: DOUBLE TURNED COMMA QUOTATION MARK ORNAMENT",
    "1F677 SANS-SERIF HEAVY: DOUBLE COMMA QUOTATION MARK ORNAMENT, LOW DOUBLE COMMA QUOTATION MARK ORNAMENT",
    "1F679: HEAVY INTERROBANG ORNAMENT, SANS-SERIF INTERROBANG ORNAMENT",
    "1F67B: HEAVY SANS-SERIF INTERROBANG ORNAMENT, VERY HEAVY SOLIDUS, VERY HEAVY REVERSE SOLIDUS",
    "1F67E: CHECKER BOARD, REVERSE CHECKER BOARD, ROCKET, HELICOPTER, STEAM LOCOMOTIVE, RAILWAY CAR",
    "1F684: HIGH-SPEED TRAIN, HIGH-SPEED TRAIN WITH BULLET NOSE, TRAIN, METRO, LIGHT RAIL, STATION, TRAM",
    "1F68B: TRAM CAR, BUS, ONCOMING BUS, TROLLEYBUS, BUS STOP, MINIBUS, AMBULANCE, FIRE ENGINE, POLICE CAR",
    "1F694: ONCOMING POLICE CAR, TAXI, ONCOMING TAXI, AUTOMOBILE, ONCOMING AUTOMOBILE, RECREATIONAL VEHICLE",
    "1F69A: DELIVERY TRUCK, ARTICULATED LORRY, TRACTOR, MONORAIL, MOUNTAIN RAILWAY, SUSPENSION RAILWAY",
    "1F6A0: MOUNTAIN CABLEWAY, AERIAL TRAMWAY, SHIP, ROWBOAT, SPEEDBOAT, HORIZONTAL TRAFFIC LIGHT",
    "1F6A6: VERTICAL TRAFFIC LIGHT, CONSTRUCTION SIGN, POLICE CARS REVOLVING LIGHT, TRIANGULAR FLAG ON POST",
    "1F6AA: DOOR, NO ENTRY SIGN, SMOKING SYMBOL, NO SMOKING SYMBOL, PUT LITTER IN ITS PLACE SYMBOL",
    "1F6AF: DO NOT LITTER SYMBOL, POTABLE WATER SYMBOL, NON-POTABLE WATER SYMBOL, BICYCLE, NO BICYCLES",
    "1F6B4: BICYCLIST, MOUNTAIN BICYCLIST, PEDESTRIAN, NO PEDESTRIANS, CHILDREN CROSSING, MENS SYMBOL",
    "1F6BA: WOMENS SYMBOL, RESTROOM, BABY SYMBOL, TOILET, WATER CLOSET, SHOWER, BATH, BATHTUB",
    "1F6C2: PASSPORT CONTROL, CUSTOMS, BAGGAGE CLAIM, LEFT LUGGAGE, TRIANGLE WITH ROUNDED CORNERS",
    "1F6C7: PROHIBITED SIGN, CIRCLED INFORMATION SOURCE, BOYS SYMBOL, GIRLS SYMBOL, COUCH AND LAMP",
    "1F6CC: SLEEPING ACCOMMODATION, SHOPPING BAGS, BELLHOP BELL, BED, PLACE OF WORSHIP, OCTAGONAL SIGN",
    "1F6D2: SHOPPING TROLLEY, STUPA, PAGODA, HINDU TEMPLE, HUT, ELEVATOR",
    "1F6DD: PLAYGROUND SLIDE, WHEEL, RING BUOY, HAMMER AND WRENCH, SHIELD, OIL DRUM, MOTORWAY, RAILWAY TRACK",
    "1F6E5: MOTOR BOAT; 1F6E6 UP-POINTING: MILITARY AIRPLANE, AIRPLANE, SMALL AIRPLANE",
    "1F6E9: SMALL AIRPLANE, NORTHEAST-POINTING AIRPLANE; 1F6EB AIRPLANE: DEPARTURE, ARRIVING",
    "1F6F0: SATELLITE, ONCOMING FIRE ENGINE, DIESEL LOCOMOTIVE, PASSENGER SHIP, SCOOTER, MOTOR SCOOTER, CANOE",
    "1F6F7: SLED, FLYING SAUCER, SKATEBOARD, AUTO RICKSHAW, PICKUP TRUCK, ROLLER SKATE",
    "1F700 ALCHEMICAL SYMBOL FOR: QUINTESSENCE, AIR, FIRE, EARTH, WATER, AQUAFORTIS, AQUA REGIA, AQUA REGIA-2",
    "1F708 ALCHEMICAL SYMBOL FOR: AQUA VITAE, AQUA VITAE-2, VINEGAR, VINEGAR-2, VINEGAR-3, SULFUR",
    "1F70E ALCHEMICAL SYMBOL FOR: PHILOSOPHERS SULFUR, BLACK SULFUR, MERCURY SUBLIMATE, MERCURY SUBLIMATE-2",
    "1F712 ALCHEMICAL SYMBOL FOR: MERCURY SUBLIMATE-3, CINNABAR, SALT, NITRE, VITRIOL, VITRIOL-2, ROCK SALT",
    "1F719 ALCHEMICAL SYMBOL FOR: ROCK SALT-2, GOLD, SILVER, IRON ORE, IRON ORE-2, CROCUS OF IRON",
    "1F71F ALCHEMICAL SYMBOL FOR: REGULUS OF IRON, COPPER ORE, IRON-COPPER ORE, SUBLIMATE OF COPPER",
    "1F723 ALCHEMICAL SYMBOL FOR: CROCUS OF COPPER, CROCUS OF COPPER-2, COPPER ANTIMONIATE",
    "1F726 ALCHEMICAL SYMBOL FOR: SALT OF COPPER ANTIMONIATE, SUBLIMATE OF SALT OF COPPER, VERDIGRIS, TIN ORE",
    "1F72A ALCHEMICAL SYMBOL FOR: LEAD ORE, ANTIMONY ORE, SUBLIMATE OF ANTIMONY, SALT OF ANTIMONY",
    "1F72E ALCHEMICAL SYMBOL FOR: SUBLIMATE OF SALT OF ANTIMONY, VINEGAR OF ANTIMONY, REGULUS OF ANTIMONY",
    "1F731 ALCHEMICAL SYMBOL FOR: REGULUS OF ANTIMONY-2, REGULUS, REGULUS-2, REGULUS-3, REGULUS-4, ALKALI",
    "1F737 ALCHEMICAL SYMBOL FOR: ALKALI-2, MARCASITE, SAL-AMMONIAC, ARSENIC, REALGAR, REALGAR-2, AURIPIGMENT",
    "1F73E ALCHEMICAL SYMBOL FOR: BISMUTH ORE, TARTAR, TARTAR-2, QUICK LIME, BORAX, BORAX-2, BORAX-3, ALUM",
    "1F746 ALCHEMICAL SYMBOL FOR: OIL, SPIRIT, TINCTURE, GUM, WAX, POWDER, CALX, TUTTY, CAPUT MORTUUM",
    "1F74F ALCHEMICAL SYMBOL FOR: SCEPTER OF JOVE, CADUCEUS, TRIDENT, STARRED TRIDENT, LODESTONE, SOAP, URINE",
    "1F756 ALCHEMICAL SYMBOL FOR: HORSE DUNG, ASHES, POT ASHES, BRICK, POWDERED BRICK, AMALGAM",
    "1F75C ALCHEMICAL SYMBOL FOR: STRATUM SUPER STRATUM, STRATUM SUPER STRATUM-2, SUBLIMATION, PRECIPITATE",
    "1F760 ALCHEMICAL SYMBOL FOR: DISTILL, DISSOLVE, DISSOLVE-2, PURIFY, PUTREFACTION, CRUCIBLE, CRUCIBLE-2",
    "1F767 ALCHEMICAL SYMBOL FOR: CRUCIBLE-3, CRUCIBLE-4, CRUCIBLE-5, ALEMBIC, BATH OF MARY, BATH OF VAPOURS",
    "1F76D ALCHEMICAL SYMBOL FOR: RETORT, HOUR, NIGHT, DAY-NIGHT, MONTH, HALF DRAM, HALF OUNCE",
    "1F780 BLACK: LEFT-POINTING ISOSCELES RIGHT TRIANGLE, UP-POINTING ISOSCELES RIGHT TRIANGLE",
    "1F782 BLACK: RIGHT-POINTING ISOSCELES RIGHT TRIANGLE, DOWN-POINTING ISOSCELES RIGHT TRIANGLE",
    "1F784 BLACK: SLIGHTLY SMALL CIRCLE",
    "1F785: MEDIUM BOLD WHITE CIRCLE, BOLD WHITE CIRCLE, HEAVY WHITE CIRCLE, VERY HEAVY WHITE CIRCLE",
    "1F789: EXTREMELY HEAVY WHITE CIRCLE, WHITE CIRCLE CONTAINING BLACK SMALL CIRCLE, ROUND TARGET",
    "1F78C: BLACK TINY SQUARE, BLACK SLIGHTLY SMALL SQUARE, LIGHT WHITE SQUARE, MEDIUM WHITE SQUARE",
    "1F790: BOLD WHITE SQUARE, HEAVY WHITE SQUARE, VERY HEAVY WHITE SQUARE, EXTREMELY HEAVY WHITE SQUARE",
    "1F794 WHITE SQUARE CONTAINING BLACK: VERY SMALL SQUARE, MEDIUM SQUARE; 1F796 SQUARE: TARGET",
    "1F797 BLACK: TINY DIAMOND, VERY SMALL DIAMOND, MEDIUM SMALL DIAMOND",
    "1F79A WHITE DIAMOND CONTAINING BLACK: VERY SMALL DIAMOND, MEDIUM DIAMOND",
    "1F79C: DIAMOND TARGET, BLACK TINY LOZENGE, BLACK VERY SMALL LOZENGE, BLACK MEDIUM SMALL LOZENGE",
    "1F7A0: WHITE LOZENGE CONTAINING BLACK SMALL LOZENGE, THIN GREEK CROSS, LIGHT GREEK CROSS",
    "1F7A3: MEDIUM GREEK CROSS, BOLD GREEK CROSS, VERY BOLD GREEK CROSS, VERY HEAVY GREEK CROSS",
    "1F7A7: EXTREMELY HEAVY GREEK CROSS, THIN SALTIRE, LIGHT SALTIRE, MEDIUM SALTIRE, BOLD SALTIRE",
    "1F7AC: HEAVY SALTIRE, VERY HEAVY SALTIRE, EXTREMELY HEAVY SALTIRE, LIGHT FIVE SPOKED ASTERISK",
    "1F7B0: MEDIUM FIVE SPOKED ASTERISK, BOLD FIVE SPOKED ASTERISK, HEAVY FIVE SPOKED ASTERISK",
    "1F7B3: VERY HEAVY FIVE SPOKED ASTERISK, EXTREMELY HEAVY FIVE SPOKED ASTERISK, LIGHT SIX SPOKED ASTERISK",
    "1F7B6: MEDIUM SIX SPOKED ASTERISK, BOLD SIX SPOKED ASTERISK, HEAVY SIX SPOKED ASTERISK",
    "1F7B9: VERY HEAVY SIX SPOKED ASTERISK, EXTREMELY HEAVY SIX SPOKED ASTERISK, LIGHT EIGHT SPOKED ASTERISK",
    "1F7BC: MEDIUM EIGHT SPOKED ASTERISK, BOLD EIGHT SPOKED ASTERISK, HEAVY EIGHT SPOKED ASTERISK",
    "1F7BF: VERY HEAVY EIGHT SPOKED ASTERISK, LIGHT THREE POINTED BLACK STAR, MEDIUM THREE POINTED BLACK STAR",
    "1F7C2: THREE POINTED BLACK STAR, MEDIUM THREE POINTED PINWHEEL STAR, LIGHT FOUR POINTED BLACK STAR",
    "1F7C5: MEDIUM FOUR POINTED BLACK STAR, FOUR POINTED BLACK STAR, MEDIUM FOUR POINTED PINWHEEL STAR",
    "1F7C8: REVERSE LIGHT FOUR POINTED PINWHEEL STAR, LIGHT FIVE POINTED BLACK STAR",
    "1F7CA: HEAVY FIVE POINTED BLACK STAR, MEDIUM SIX POINTED BLACK STAR, HEAVY SIX POINTED BLACK STAR",
    "1F7CD: SIX POINTED PINWHEEL STAR, MEDIUM EIGHT POINTED BLACK STAR, HEAVY EIGHT POINTED BLACK STAR",
    "1F7D0: VERY HEAVY EIGHT POINTED BLACK STAR, HEAVY EIGHT POINTED PINWHEEL STAR",
    "1F7D2: LIGHT TWELVE POINTED BLACK STAR; 1F7D3 HEAVY TWELVE POINTED: BLACK STAR, PINWHEEL STAR",
    "1F7D5: CIRCLED TRIANGLE, NEGATIVE CIRCLED TRIANGLE, CIRCLED SQUARE, NEGATIVE CIRCLED SQUARE",
    "1F7E0 LARGE: ORANGE CIRCLE, YELLOW CIRCLE, GREEN CIRCLE, PURPLE CIRCLE, BROWN CIRCLE, RED SQUARE",
    "1F7E6 LARGE: BLUE SQUARE, ORANGE SQUARE, YELLOW SQUARE, GREEN SQUARE, PURPLE SQUARE, BROWN SQUARE",
    "1F7F0 HEAVY EQUALS: SIGN",
    "1F800: LEFTWARDS ARROW WITH SMALL TRIANGLE ARROWHEAD, UPWARDS ARROW WITH SMALL TRIANGLE ARROWHEAD",
    "1F802: RIGHTWARDS ARROW WITH SMALL TRIANGLE ARROWHEAD, DOWNWARDS ARROW WITH SMALL TRIANGLE ARROWHEAD",
    "1F804: LEFTWARDS ARROW WITH MEDIUM TRIANGLE ARROWHEAD, UPWARDS ARROW WITH MEDIUM TRIANGLE ARROWHEAD",
    "1F806: RIGHTWARDS ARROW WITH MEDIUM TRIANGLE ARROWHEAD, DOWNWARDS ARROW WITH MEDIUM TRIANGLE ARROWHEAD",
    "1F808: LEFTWARDS ARROW WITH LARGE TRIANGLE ARROWHEAD, UPWARDS ARROW WITH LARGE TRIANGLE ARROWHEAD",
    "1F80A: RIGHTWARDS ARROW WITH LARGE TRIANGLE ARROWHEAD, DOWNWARDS ARROW WITH LARGE TRIANGLE ARROWHEAD",
    "1F810: LEFTWARDS ARROW WITH SMALL EQUILATERAL ARROWHEAD, UPWARDS ARROW WITH SMALL EQUILATERAL ARROWHEAD",
    "1F812: RIGHTWARDS ARROW WITH SMALL EQUILATERAL ARROWHEAD",
    "1F813: DOWNWARDS ARROW WITH SMALL EQUILATERAL ARROWHEAD, LEFTWARDS ARROW WITH EQUILATERAL ARROWHEAD",
    "1F815: UPWARDS ARROW WITH EQUILATERAL ARROWHEAD, RIGHTWARDS ARROW WITH EQUILATERAL ARROWHEAD",
    "1F817: DOWNWARDS ARROW WITH EQUILATERAL ARROWHEAD",
    "1F818 HEAVY: LEFTWARDS ARROW WITH EQUILATERAL ARROWHEAD, UPWARDS ARROW WITH EQUILATERAL ARROWHEAD",
    "1F81A HEAVY: RIGHTWARDS ARROW WITH EQUILATERAL ARROWHEAD, DOWNWARDS ARROW WITH EQUILATERAL ARROWHEAD",
    "1F81C HEAVY: LEFTWARDS ARROW WITH LARGE EQUILATERAL ARROWHEAD",
    "1F81D HEAVY: UPWARDS ARROW WITH LARGE EQUILATERAL ARROWHEAD",
    "1F81E HEAVY: RIGHTWARDS ARROW WITH LARGE EQUILATERAL ARROWHEAD",
    "1F81F HEAVY: DOWNWARDS ARROW WITH LARGE EQUILATERAL ARROWHEAD",
    "1F820: LEFTWARDS TRIANGLE-HEADED ARROW WITH NARROW SHAFT",
    "1F821: UPWARDS TRIANGLE-HEADED ARROW WITH NARROW SHAFT",
    "1F822: RIGHTWARDS TRIANGLE-HEADED ARROW WITH NARROW SHAFT",
    "1F823: DOWNWARDS TRIANGLE-HEADED ARROW WITH NARROW SHAFT",
    "1F824: LEFTWARDS TRIANGLE-HEADED ARROW WITH MEDIUM SHAFT",
    "1F825: UPWARDS TRIANGLE-HEADED ARROW WITH MEDIUM SHAFT",
    "1F826: RIGHTWARDS TRIANGLE-HEADED ARROW WITH MEDIUM SHAFT",
    "1F827: DOWNWARDS TRIANGLE-HEADED ARROW WITH MEDIUM SHAFT",
    "1F828: LEFTWARDS TRIANGLE-HEADED ARROW WITH BOLD SHAFT, UPWARDS TRIANGLE-HEADED ARROW WITH BOLD SHAFT",
    "1F82A: RIGHTWARDS TRIANGLE-HEADED ARROW WITH BOLD SHAFT, DOWNWARDS TRIANGLE-HEADED ARROW WITH BOLD SHAFT",
    "1F82C: LEFTWARDS TRIANGLE-HEADED ARROW WITH HEAVY SHAFT, UPWARDS TRIANGLE-HEADED ARROW WITH HEAVY SHAFT",
    "1F82E: RIGHTWARDS TRIANGLE-HEADED ARROW WITH HEAVY SHAFT",
    "1F82F: DOWNWARDS TRIANGLE-HEADED ARROW WITH HEAVY SHAFT",
    "1F830: LEFTWARDS TRIANGLE-HEADED ARROW WITH VERY HEAVY SHAFT",
    "1F831: UPWARDS TRIANGLE-HEADED ARROW WITH VERY HEAVY SHAFT",
    "1F832: RIGHTWARDS TRIANGLE-HEADED ARROW WITH VERY HEAVY SHAFT",
    "1F833: DOWNWARDS TRIANGLE-HEADED ARROW WITH VERY HEAVY SHAFT, LEFTWARDS FINGER-POST ARROW",
    "1F835: UPWARDS FINGER-POST ARROW, RIGHTWARDS FINGER-POST ARROW, DOWNWARDS FINGER-POST ARROW",
    "1F838: LEFTWARDS SQUARED ARROW, UPWARDS SQUARED ARROW, RIGHTWARDS SQUARED ARROW, DOWNWARDS SQUARED ARROW",
    "1F83C: LEFTWARDS COMPRESSED ARROW, UPWARDS COMPRESSED ARROW, RIGHTWARDS COMPRESSED ARROW",
    "1F83F: DOWNWARDS COMPRESSED ARROW, LEFTWARDS HEAVY COMPRESSED ARROW, UPWARDS HEAVY COMPRESSED ARROW",
    "1F842: RIGHTWARDS HEAVY COMPRESSED ARROW, DOWNWARDS HEAVY COMPRESSED ARROW, LEFTWARDS HEAVY ARROW",
    "1F845: UPWARDS HEAVY ARROW, RIGHTWARDS HEAVY ARROW, DOWNWARDS HEAVY ARROW",
    "1F850: LEFTWARDS SANS-SERIF ARROW, UPWARDS SANS-SERIF ARROW, RIGHTWARDS SANS-SERIF ARROW",
    "1F853: DOWNWARDS SANS-SERIF ARROW, NORTH WEST SANS-SERIF ARROW, NORTH EAST SANS-SERIF ARROW",
    "1F856: SOUTH EAST SANS-SERIF ARROW, SOUTH WEST SANS-SERIF ARROW, LEFT RIGHT SANS-SERIF ARROW",
    "1F859: UP DOWN SANS-SERIF ARROW",
    "1F860 WIDE-HEADED: LEFTWARDS LIGHT BARB ARROW, UPWARDS LIGHT BARB ARROW, RIGHTWARDS LIGHT BARB ARROW",
    "1F863 WIDE-HEADED: DOWNWARDS LIGHT BARB ARROW, NORTH WEST LIGHT BARB ARROW, NORTH EAST LIGHT BARB ARROW",
    "1F866 WIDE-HEADED: SOUTH EAST LIGHT BARB ARROW, SOUTH WEST LIGHT BARB ARROW, LEFTWARDS BARB ARROW",
    "1F869 WIDE-HEADED: UPWARDS BARB ARROW, RIGHTWARDS BARB ARROW, DOWNWARDS BARB ARROW",
    "1F86C WIDE-HEADED: NORTH WEST BARB ARROW, NORTH EAST BARB ARROW, SOUTH EAST BARB ARROW",
    "1F86F WIDE-HEADED: SOUTH WEST BARB ARROW, LEFTWARDS MEDIUM BARB ARROW, UPWARDS MEDIUM BARB ARROW",
    "1F872 WIDE-HEADED: RIGHTWARDS MEDIUM BARB ARROW, DOWNWARDS MEDIUM BARB ARROW",
    "1F874 WIDE-HEADED: NORTH WEST MEDIUM BARB ARROW, NORTH EAST MEDIUM BARB ARROW",
    "1F876 WIDE-HEADED: SOUTH EAST MEDIUM BARB ARROW, SOUTH WEST MEDIUM BARB ARROW",
    "1F878 WIDE-HEADED: LEFTWARDS HEAVY BARB ARROW, UPWARDS HEAVY BARB ARROW, RIGHTWARDS HEAVY BARB ARROW",
    "1F87B WIDE-HEADED: DOWNWARDS HEAVY BARB ARROW, NORTH WEST HEAVY BARB ARROW, NORTH EAST HEAVY BARB ARROW",
    "1F87E WIDE-HEADED: SOUTH EAST HEAVY BARB ARROW, SOUTH WEST HEAVY BARB ARROW",
    "1F880 WIDE-HEADED: LEFTWARDS VERY HEAVY BARB ARROW, UPWARDS VERY HEAVY BARB ARROW",
    "1F882 WIDE-HEADED: RIGHTWARDS VERY HEAVY BARB ARROW, DOWNWARDS VERY HEAVY BARB ARROW",
    "1F884 WIDE-HEADED: NORTH WEST VERY HEAVY BARB ARROW, NORTH EAST VERY HEAVY BARB ARROW",
    "1F886 WIDE-HEADED: SOUTH EAST VERY HEAVY BARB ARROW, SOUTH WEST VERY HEAVY BARB ARROW",
    "1F890: LEFTWARDS TRIANGLE ARROWHEAD, UPWARDS TRIANGLE ARROWHEAD, RIGHTWARDS TRIANGLE ARROWHEAD",
    "1F893: DOWNWARDS TRIANGLE ARROWHEAD, LEFTWARDS WHITE ARROW WITHIN TRIANGLE ARROWHEAD",
    "1F895: UPWARDS WHITE ARROW WITHIN TRIANGLE ARROWHEAD, RIGHTWARDS WHITE ARROW WITHIN TRIANGLE ARROWHEAD",
    "1F897: DOWNWARDS WHITE ARROW WITHIN TRIANGLE ARROWHEAD, LEFTWARDS ARROW WITH NOTCHED TAIL",
    "1F899: UPWARDS ARROW WITH NOTCHED TAIL, RIGHTWARDS ARROW WITH NOTCHED TAIL",
    "1F89B: DOWNWARDS ARROW WITH NOTCHED TAIL",
    "1F89C HEAVY ARROW SHAFT WIDTH: ONE, TWO THIRDS, ONE HALF, ONE THIRD",
    "1F8A0: LEFTWARDS BOTTOM-SHADED WHITE ARROW, RIGHTWARDS BOTTOM SHADED WHITE ARROW",
    "1F8A2: LEFTWARDS TOP SHADED WHITE ARROW, RIGHTWARDS TOP SHADED WHITE ARROW",
    "1F8A4: LEFTWARDS LEFT-SHADED WHITE ARROW, RIGHTWARDS RIGHT-SHADED WHITE ARROW",
    "1F8A6: LEFTWARDS RIGHT-SHADED WHITE ARROW, RIGHTWARDS LEFT-SHADED WHITE ARROW",
    "1F8A8: LEFTWARDS BACK-TILTED SHADOWED WHITE ARROW, RIGHTWARDS BACK-TILTED SHADOWED WHITE ARROW",
    "1F8AA: LEFTWARDS FRONT-TILTED SHADOWED WHITE ARROW, RIGHTWARDS FRONT-TILTED SHADOWED WHITE ARROW",
    "1F8AC WHITE ARROW SHAFT WIDTH: ONE, TWO THIRDS",
    "1F8B0 ARROW POINTING: UPWARDS THEN NORTH WEST, RIGHTWARDS THEN CURVING SOUTH WEST",
    "1F900 CIRCLED CROSS: FORMEE WITH FOUR DOTS, FORMEE WITH TWO DOTS, FORMEE",
    "1F903 LEFT HALF CIRCLE WITH: FOUR DOTS, THREE DOTS, TWO DOTS, DOT; 1F907 LEFT HALF: CIRCLE",
    "1F908 DOWNWARD FACING: HOOK, NOTCHED HOOK, HOOK WITH DOT, NOTCHED HOOK WITH DOT",
    "1F90C: PINCHED FINGERS, WHITE HEART, BROWN HEART, PINCHING HAND, ZIPPER-MOUTH FACE, MONEY-MOUTH FACE",
    "1F912: FACE WITH THERMOMETER, NERD FACE, THINKING FACE, FACE WITH HEAD-BANDAGE, ROBOT FACE, HUGGING FACE",
    "1F918: SIGN OF THE HORNS, CALL ME HAND, RAISED BACK OF HAND, LEFT-FACING FIST, RIGHT-FACING FIST",
    "1F91D: HANDSHAKE, HAND WITH INDEX AND MIDDLE FINGERS CROSSED, I LOVE YOU HAND SIGN, FACE WITH COWBOY HAT",
    "1F921: CLOWN FACE, NAUSEATED FACE, ROLLING ON THE FLOOR LAUGHING, DROOLING FACE, LYING FACE, FACE PALM",
    "1F927: SNEEZING FACE, FACE WITH ONE EYEBROW RAISED",
    "1F929 GRINNING FACE WITH: STAR EYES, ONE LARGE AND ONE SMALL EYE",
    "1F92B: FACE WITH FINGER COVERING CLOSED LIPS, SERIOUS FACE WITH SYMBOLS COVERING MOUTH",
    "1F92D: SMILING FACE WITH SMILING EYES AND HAND COVERING MOUTH, FACE WITH OPEN MOUTH VOMITING",
    "1F92F: SHOCKED FACE WITH EXPLODING HEAD, PREGNANT WOMAN, BREAST-FEEDING, PALMS UP TOGETHER, SELFIE",
    "1F934: PRINCE, MAN IN TUXEDO, MOTHER CHRISTMAS, SHRUG, PERSON DOING CARTWHEEL, JUGGLING, FENCER",
    "1F93B: MODERN PENTATHLON, WRESTLERS, WATER POLO, HANDBALL, DIVING MASK, WILTED FLOWER",
    "1F941: DRUM WITH DRUMSTICKS, CLINKING GLASSES, TUMBLER GLASS, SPOON, GOAL NET, RIFLE, FIRST PLACE MEDAL",
    "1F948: SECOND PLACE MEDAL, THIRD PLACE MEDAL, BOXING GLOVE, MARTIAL ARTS UNIFORM, CURLING STONE",
    "1F94D: LACROSSE STICK AND BALL, SOFTBALL, FLYING DISC, CROISSANT, AVOCADO, CUCUMBER, BACON, POTATO",
    "1F955: CARROT, BAGUETTE BREAD, GREEN SALAD, SHALLOW PAN OF FOOD, STUFFED FLATBREAD, EGG, GLASS OF MILK",
    "1F95C: PEANUTS, KIWIFRUIT, PANCAKES, DUMPLING, FORTUNE COOKIE, TAKEOUT BOX, CHOPSTICKS, BOWL WITH SPOON",
    "1F964: CUP WITH STRAW, COCONUT, BROCCOLI, PIE, PRETZEL, CUT OF MEAT, SANDWICH, CANNED FOOD, LEAFY GREEN",
    "1F96D: MANGO, MOON CAKE, BAGEL, SMILING FACE WITH SMILING EYES AND THREE HEARTS, YAWNING FACE",
    "1F972: SMILING FACE WITH TEAR, FACE WITH PARTY HORN AND PARTY HAT, FACE WITH UNEVEN EYES AND WAVY MOUTH",
    "1F975: OVERHEATED FACE, FREEZING FACE, NINJA, DISGUISED FACE, FACE HOLDING BACK TEARS",
    "1F97A: FACE WITH PLEADING EYES, SARI, LAB COAT, GOGGLES, HIKING BOOT, FLAT SHOE, CRAB, LION FACE",
    "1F982: SCORPION, TURKEY, UNICORN FACE, EAGLE, DUCK, BAT, SHARK, OWL, FOX FACE, BUTTERFLY, DEER, GORILLA",
    "1F98E: LIZARD, RHINOCEROS, SHRIMP, SQUID, GIRAFFE FACE, ZEBRA FACE, HEDGEHOG, SAUROPOD, T-REX, CRICKET",
    "1F998: KANGAROO, LLAMA, PEACOCK, HIPPOPOTAMUS, PARROT, RACCOON, LOBSTER, MOSQUITO, MICROBE, BADGER, SWAN",
    "1F9A3: MAMMOTH, DODO, SLOTH, OTTER, ORANGUTAN, SKUNK, FLAMINGO, OYSTER, BEAVER, BISON, SEAL, GUIDE DOG",
    "1F9AF: PROBING CANE; 1F9B0 EMOJI COMPONENT: RED HAIR, CURLY HAIR, BALD, WHITE HAIR",
    "1F9B4: BONE, LEG, FOOT, TOOTH, SUPERHERO, SUPERVILLAIN, SAFETY VEST, EAR WITH HEARING AID",
    "1F9BC: MOTORIZED WHEELCHAIR, MANUAL WHEELCHAIR, MECHANICAL ARM, MECHANICAL LEG, CHEESE WEDGE, CUPCAKE",
    "1F9C2: SALT SHAKER, BEVERAGE BOX, GARLIC, ONION, FALAFEL, WAFFLE, BUTTER, MATE DRINK, ICE CUBE",
    "1F9CB: BUBBLE TEA, TROLL, STANDING PERSON, KNEELING PERSON, DEAF PERSON, FACE WITH MONOCLE, ADULT, CHILD",
    "1F9D3: OLDER ADULT, BEARDED PERSON",
    "1F9D5 PERSON: WITH HEADSCARF, IN STEAMY ROOM, CLIMBING, IN LOTUS POSITION",
    "1F9D9: MAGE, FAIRY, VAMPIRE, MERPERSON, ELF, GENIE, ZOMBIE, BRAIN, ORANGE HEART, BILLED CAP, SCARF",
    "1F9E4: GLOVES, COAT, SOCKS, RED GIFT ENVELOPE, FIRECRACKER, JIGSAW PUZZLE PIECE, TEST TUBE, PETRI DISH",
    "1F9EC: DNA DOUBLE HELIX, COMPASS, ABACUS, FIRE EXTINGUISHER, TOOLBOX, BRICK, MAGNET, LUGGAGE",
    "1F9F4: LOTION BOTTLE, SPOOL OF THREAD, BALL OF YARN, SAFETY PIN, TEDDY BEAR, BROOM, BASKET",
    "1F9FB: ROLL OF PAPER, BAR OF SOAP, SPONGE, RECEIPT, NAZAR AMULET",
    "1FA00 NEUTRAL CHESS: KING, QUEEN, ROOK, BISHOP, KNIGHT, PAWN",
    "1FA06: WHITE CHESS KNIGHT ROTATED FORTY-FIVE DEGREES, BLACK CHESS KNIGHT ROTATED FORTY-FIVE DEGREES",
    "1FA08: NEUTRAL CHESS KNIGHT ROTATED FORTY-FIVE DEGREES",
    "1FA09 WHITE CHESS: KING ROTATED NINETY DEGREES, QUEEN ROTATED NINETY DEGREES",
    "1FA0B WHITE CHESS: ROOK ROTATED NINETY DEGREES, BISHOP ROTATED NINETY DEGREES",
    "1FA0D WHITE CHESS: KNIGHT ROTATED NINETY DEGREES, PAWN ROTATED NINETY DEGREES",
    "1FA0F BLACK CHESS: KING ROTATED NINETY DEGREES, QUEEN ROTATED NINETY DEGREES",
    "1FA11 BLACK CHESS: ROOK ROTATED NINETY DEGREES, BISHOP ROTATED NINETY DEGREES",
    "1FA13 BLACK CHESS: KNIGHT ROTATED NINETY DEGREES, PAWN ROTATED NINETY DEGREES",
    "1FA15 NEUTRAL CHESS: KING ROTATED NINETY DEGREES, QUEEN ROTATED NINETY DEGREES",
    "1FA17 NEUTRAL CHESS: ROOK ROTATED NINETY DEGREES, BISHOP ROTATED NINETY DEGREES",
    "1FA19 NEUTRAL CHESS: KNIGHT ROTATED NINETY DEGREES, PAWN ROTATED NINETY DEGREES",
    "1FA1B: WHITE CHESS KNIGHT ROTATED ONE HUNDRED THIRTY-FIVE DEGREES",
    "1FA1C: BLACK CHESS KNIGHT ROTATED ONE HUNDRED THIRTY-FIVE DEGREES",
    "1FA1D: NEUTRAL CHESS KNIGHT ROTATED ONE HUNDRED THIRTY-FIVE DEGREES",
    "1FA1E WHITE CHESS TURNED: KING, QUEEN, ROOK, BISHOP, KNIGHT, PAWN",
    "1FA24 BLACK CHESS TURNED: KING, QUEEN, ROOK, BISHOP, KNIGHT, PAWN",
    "1FA2A NEUTRAL CHESS TURNED: KING, QUEEN, ROOK, BISHOP, KNIGHT, PAWN",
    "1FA30: WHITE CHESS KNIGHT ROTATED TWO HUNDRED TWENTY-FIVE DEGREES",
    "1FA31: BLACK CHESS KNIGHT ROTATED TWO HUNDRED TWENTY-FIVE DEGREES",
    "1FA32: NEUTRAL CHESS KNIGHT ROTATED TWO HUNDRED TWENTY-FIVE DEGREES",
    "1FA33 WHITE CHESS: KING ROTATED TWO HUNDRED SEVENTY DEGREES, QUEEN ROTATED TWO HUNDRED SEVENTY DEGREES",
    "1FA35 WHITE CHESS: ROOK ROTATED TWO HUNDRED SEVENTY DEGREES, BISHOP ROTATED TWO HUNDRED SEVENTY DEGREES",
    "1FA37 WHITE CHESS: KNIGHT ROTATED TWO HUNDRED SEVENTY DEGREES, PAWN ROTATED TWO HUNDRED SEVENTY DEGREES",
    "1FA39 BLACK CHESS: KING ROTATED TWO HUNDRED SEVENTY DEGREES, QUEEN ROTATED TWO HUNDRED SEVENTY DEGREES",
    "1FA3B BLACK CHESS: ROOK ROTATED TWO HUNDRED SEVENTY DEGREES, BISHOP ROTATED TWO HUNDRED SEVENTY DEGREES",
    "1FA3D BLACK CHESS: KNIGHT ROTATED TWO HUNDRED SEVENTY DEGREES, PAWN ROTATED TWO HUNDRED SEVENTY DEGREES",
    "1FA3F NEUTRAL CHESS: KING ROTATED TWO HUNDRED SEVENTY DEGREES, QUEEN ROTATED TWO HUNDRED SEVENTY DEGREES",
    "1FA41 NEUTRAL CHESS: ROOK ROTATED TWO HUNDRED SEVENTY DEGREES",
    "1FA42 NEUTRAL CHESS: BISHOP ROTATED TWO HUNDRED SEVENTY DEGREES",
    "1FA43 NEUTRAL CHESS: KNIGHT ROTATED TWO HUNDRED SEVENTY DEGREES",
    "1FA44 NEUTRAL CHESS: PAWN ROTATED TWO HUNDRED SEVENTY DEGREES",
    "1FA45: WHITE CHESS KNIGHT ROTATED THREE HUNDRED FIFTEEN DEGREES",
    "1FA46: BLACK CHESS KNIGHT ROTATED THREE HUNDRED FIFTEEN DEGREES",
    "1FA47: NEUTRAL CHESS KNIGHT ROTATED THREE HUNDRED FIFTEEN DEGREES, WHITE CHESS EQUIHOPPER",
    "1FA49: BLACK CHESS EQUIHOPPER, NEUTRAL CHESS EQUIHOPPER, WHITE CHESS EQUIHOPPER ROTATED NINETY DEGREES",
    "1FA4C: BLACK CHESS EQUIHOPPER ROTATED NINETY DEGREES, NEUTRAL CHESS EQUIHOPPER ROTATED NINETY DEGREES",
    "1FA4E WHITE CHESS: KNIGHT-QUEEN, KNIGHT-ROOK, KNIGHT-BISHOP",
    "1FA51 BLACK CHESS: KNIGHT-QUEEN, KNIGHT-ROOK, KNIGHT-BISHOP",
    "1FA60 XIANGQI RED: GENERAL, MANDARIN, ELEPHANT, HORSE, CHARIOT, CANNON, SOLDIER",
    "1FA67 XIANGQI BLACK: GENERAL, MANDARIN, ELEPHANT, HORSE, CHARIOT, CANNON, SOLDIER",
    "1FA70: BALLET SHOES, ONE-PIECE SWIMSUIT, BRIEFS, SHORTS, THONG SANDAL",
    "1FA78: DROP OF BLOOD, ADHESIVE BANDAGE, STETHOSCOPE, X-RAY, CRUTCH",
    "1FA80: YO-YO, KITE, PARACHUTE, BOOMERANG, MAGIC WAND, PINATA, NESTING DOLLS",
    "1FA90: RINGED PLANET, CHAIR, RAZOR, AXE, DIYA LAMP, BANJO, MILITARY HELMET, ACCORDION, LONG DRUM, COIN",
    "1FA9A: CARPENTRY SAW, SCREWDRIVER, LADDER, HOOK, MIRROR, WINDOW, PLUNGER, SEWING NEEDLE, KNOT, BUCKET",
    "1FAA4: MOUSE TRAP, TOOTHBRUSH, HEADSTONE, PLACARD, ROCK, MIRROR BALL, IDENTIFICATION CARD, LOW BATTERY",
    "1FAAC: HAMSA; 1FAB0: FLY, WORM, BEETLE, COCKROACH, POTTED PLANT, WOOD, FEATHER, LOTUS, CORAL, EMPTY NEST",
    "1FABA: NEST WITH EGGS",
    "1FAC0: ANATOMICAL HEART, LUNGS, PEOPLE HUGGING, PREGNANT MAN, PREGNANT PERSON, PERSON WITH CROWN",
    "1FAD0: BLUEBERRIES, BELL PEPPER, OLIVE, FLATBREAD, TAMALE, FONDUE, TEAPOT, POURING LIQUID, BEANS, JAR",
    "1FAE0: MELTING FACE, SALUTING FACE",
    "1FAE2 FACE WITH: OPEN EYES AND HAND OVER MOUTH, PEEKING EYE, DIAGONAL MOUTH",
    "1FAE5: DOTTED LINE FACE, BITING LIP, BUBBLES",
    "1FAF0: HAND WITH INDEX FINGER AND THUMB CROSSED, RIGHTWARDS HAND, LEFTWARDS HAND, PALM DOWN HAND",
    "1FAF4: PALM UP HAND, INDEX POINTING AT THE VIEWER, HEART HANDS",
    "1FB00 BLOCK: SEXTANT-1, SEXTANT-2, SEXTANT-12, SEXTANT-3, SEXTANT-13, SEXTANT-23, SEXTANT-123, SEXTANT-4",
    "1FB08 BLOCK: SEXTANT-14, SEXTANT-24, SEXTANT-124, SEXTANT-34, SEXTANT-134, SEXTANT-234, SEXTANT-1234",
    "1FB0F BLOCK: SEXTANT-5, SEXTANT-15, SEXTANT-25, SEXTANT-125, SEXTANT-35, SEXTANT-235, SEXTANT-1235",
    "1FB16 BLOCK: SEXTANT-45, SEXTANT-145, SEXTANT-245, SEXTANT-1245, SEXTANT-345, SEXTANT-1345, SEXTANT-2345",
    "1FB1D BLOCK: SEXTANT-12345, SEXTANT-6, SEXTANT-16, SEXTANT-26, SEXTANT-126, SEXTANT-36, SEXTANT-136",
    "1FB24 BLOCK: SEXTANT-236, SEXTANT-1236, SEXTANT-46, SEXTANT-146, SEXTANT-1246, SEXTANT-346, SEXTANT-1346",
    "1FB2B BLOCK: SEXTANT-2346, SEXTANT-12346, SEXTANT-56, SEXTANT-156, SEXTANT-256, SEXTANT-1256",
    "1FB31 BLOCK: SEXTANT-356, SEXTANT-1356, SEXTANT-2356, SEXTANT-12356, SEXTANT-456, SEXTANT-1456",
    "1FB37 BLOCK: SEXTANT-2456, SEXTANT-12456, SEXTANT-3456, SEXTANT-13456, SEXTANT-23456",
    "1FB3C LOWER LEFT BLOCK DIAGONAL LOWER MIDDLE LEFT TO LOWER: CENTRE, RIGHT",
    "1FB3E LOWER LEFT BLOCK DIAGONAL UPPER: MIDDLE LEFT TO LOWER CENTRE, MIDDLE LEFT TO LOWER RIGHT",
    "1FB40 LOWER LEFT BLOCK DIAGONAL UPPER: LEFT TO LOWER CENTRE",
    "1FB41 LOWER RIGHT BLOCK DIAGONAL UPPER MIDDLE LEFT TO UPPER: CENTRE, RIGHT",
    "1FB43 LOWER RIGHT BLOCK DIAGONAL LOWER: MIDDLE LEFT TO UPPER CENTRE, MIDDLE LEFT TO UPPER RIGHT",
    "1FB45 LOWER RIGHT BLOCK DIAGONAL LOWER: LEFT TO UPPER CENTRE, MIDDLE LEFT TO UPPER MIDDLE RIGHT",
    "1FB47 LOWER RIGHT BLOCK DIAGONAL LOWER: CENTRE TO LOWER MIDDLE RIGHT, LEFT TO LOWER MIDDLE RIGHT",
    "1FB49 LOWER RIGHT BLOCK DIAGONAL LOWER: CENTRE TO UPPER MIDDLE RIGHT, LEFT TO UPPER MIDDLE RIGHT",
    "1FB4B LOWER RIGHT BLOCK DIAGONAL LOWER: CENTRE TO UPPER RIGHT",
    "1FB4C LOWER LEFT BLOCK DIAGONAL UPPER: CENTRE TO UPPER MIDDLE RIGHT, LEFT TO UPPER MIDDLE RIGHT",
    "1FB4E LOWER LEFT BLOCK DIAGONAL UPPER: CENTRE TO LOWER MIDDLE RIGHT, LEFT TO LOWER MIDDLE RIGHT",
    "1FB50 LOWER LEFT BLOCK DIAGONAL UPPER: CENTRE TO LOWER RIGHT, MIDDLE LEFT TO LOWER MIDDLE RIGHT",
    "1FB52 UPPER RIGHT BLOCK DIAGONAL LOWER MIDDLE LEFT TO LOWER: CENTRE, RIGHT",
    "1FB54 UPPER RIGHT BLOCK DIAGONAL UPPER: MIDDLE LEFT TO LOWER CENTRE, MIDDLE LEFT TO LOWER RIGHT",
    "1FB56 UPPER RIGHT BLOCK DIAGONAL UPPER: LEFT TO LOWER CENTRE",
    "1FB57 UPPER LEFT BLOCK DIAGONAL UPPER MIDDLE LEFT TO UPPER: CENTRE, RIGHT",
    "1FB59 UPPER LEFT BLOCK DIAGONAL LOWER: MIDDLE LEFT TO UPPER CENTRE, MIDDLE LEFT TO UPPER RIGHT",
    "1FB5B UPPER LEFT BLOCK DIAGONAL LOWER: LEFT TO UPPER CENTRE, MIDDLE LEFT TO UPPER MIDDLE RIGHT",
    "1FB5D UPPER LEFT BLOCK DIAGONAL LOWER: CENTRE TO LOWER MIDDLE RIGHT, LEFT TO LOWER MIDDLE RIGHT",
    "1FB5F UPPER LEFT BLOCK DIAGONAL LOWER: CENTRE TO UPPER MIDDLE RIGHT, LEFT TO UPPER MIDDLE RIGHT",
    "1FB61 UPPER LEFT BLOCK DIAGONAL LOWER: CENTRE TO UPPER RIGHT",
    "1FB62 UPPER RIGHT BLOCK DIAGONAL UPPER: CENTRE TO UPPER MIDDLE RIGHT, LEFT TO UPPER MIDDLE RIGHT",
    "1FB64 UPPER RIGHT BLOCK DIAGONAL UPPER: CENTRE TO LOWER MIDDLE RIGHT, LEFT TO LOWER MIDDLE RIGHT",
    "1FB66 UPPER RIGHT BLOCK DIAGONAL UPPER: CENTRE TO LOWER RIGHT, MIDDLE LEFT TO LOWER MIDDLE RIGHT",
    "1FB68: UPPER AND RIGHT AND LOWER TRIANGULAR THREE QUARTERS BLOCK",
    "1FB69: LEFT AND LOWER AND RIGHT TRIANGULAR THREE QUARTERS BLOCK",
    "1FB6A: UPPER AND LEFT AND LOWER TRIANGULAR THREE QUARTERS BLOCK",
    "1FB6B: LEFT AND UPPER AND RIGHT TRIANGULAR THREE QUARTERS BLOCK, LEFT TRIANGULAR ONE QUARTER BLOCK",
    "1FB6D: UPPER TRIANGULAR ONE QUARTER BLOCK, RIGHT TRIANGULAR ONE QUARTER BLOCK",
    "1FB6F: LOWER TRIANGULAR ONE QUARTER BLOCK",
    "1FB70 VERTICAL ONE EIGHTH: BLOCK-2, BLOCK-3, BLOCK-4, BLOCK-5, BLOCK-6, BLOCK-7",
    "1FB76 HORIZONTAL ONE EIGHTH: BLOCK-2, BLOCK-3, BLOCK-4, BLOCK-5, BLOCK-6, BLOCK-7",
    "1FB7C LEFT AND: LOWER ONE EIGHTH BLOCK, UPPER ONE EIGHTH BLOCK",
    "1FB7E RIGHT AND: UPPER ONE EIGHTH BLOCK, LOWER ONE EIGHTH BLOCK",
    "1FB80: UPPER AND LOWER ONE EIGHTH BLOCK, HORIZONTAL ONE EIGHTH BLOCK-1358",
    "1FB82 UPPER: ONE QUARTER BLOCK, THREE EIGHTHS BLOCK, FIVE EIGHTHS BLOCK, THREE QUARTERS BLOCK",
    "1FB86 UPPER: SEVEN EIGHTHS BLOCK",
    "1FB87 RIGHT: ONE QUARTER BLOCK, THREE EIGHTHS BLOCK, FIVE EIGHTHS BLOCK, THREE QUARTERS BLOCK",
    "1FB8B RIGHT: SEVEN EIGHTHS BLOCK",
    "1FB8C: LEFT HALF MEDIUM SHADE, RIGHT HALF MEDIUM SHADE, UPPER HALF MEDIUM SHADE, LOWER HALF MEDIUM SHADE",
    "1FB90: INVERSE MEDIUM SHADE",
    "1FB91 UPPER HALF: BLOCK AND LOWER HALF INVERSE MEDIUM SHADE, INVERSE MEDIUM SHADE AND LOWER HALF BLOCK",
    "1FB94: LEFT HALF INVERSE MEDIUM SHADE AND RIGHT HALF BLOCK, CHECKER BOARD FILL",
    "1FB96: INVERSE CHECKER BOARD FILL, HEAVY HORIZONTAL FILL, UPPER LEFT TO LOWER RIGHT FILL",
    "1FB99: UPPER RIGHT TO LOWER LEFT FILL, UPPER AND LOWER TRIANGULAR HALF BLOCK",
    "1FB9B: LEFT AND RIGHT TRIANGULAR HALF BLOCK, UPPER LEFT TRIANGULAR MEDIUM SHADE",
    "1FB9D: UPPER RIGHT TRIANGULAR MEDIUM SHADE, LOWER RIGHT TRIANGULAR MEDIUM SHADE",
    "1FB9F: LOWER LEFT TRIANGULAR MEDIUM SHADE",
    "1FBA0 BOX DRAWINGS LIGHT DIAGONAL: UPPER CENTRE TO MIDDLE LEFT, UPPER CENTRE TO MIDDLE RIGHT",
    "1FBA2 BOX DRAWINGS LIGHT DIAGONAL: MIDDLE LEFT TO LOWER CENTRE, MIDDLE RIGHT TO LOWER CENTRE",
    "1FBA4 BOX DRAWINGS LIGHT DIAGONAL: UPPER CENTRE TO MIDDLE LEFT TO LOWER CENTRE",
    "1FBA5 BOX DRAWINGS LIGHT DIAGONAL: UPPER CENTRE TO MIDDLE RIGHT TO LOWER CENTRE",
    "1FBA6 BOX DRAWINGS LIGHT DIAGONAL: MIDDLE LEFT TO LOWER CENTRE TO MIDDLE RIGHT",
    "1FBA7 BOX DRAWINGS LIGHT DIAGONAL: MIDDLE LEFT TO UPPER CENTRE TO MIDDLE RIGHT",
    "1FBA8 BOX DRAWINGS LIGHT DIAGONAL: UPPER CENTRE TO MIDDLE LEFT AND MIDDLE RIGHT TO LOWER CENTRE",
    "1FBA9 BOX DRAWINGS LIGHT DIAGONAL: UPPER CENTRE TO MIDDLE RIGHT AND MIDDLE LEFT TO LOWER CENTRE",
    "1FBAA BOX DRAWINGS LIGHT DIAGONAL: UPPER CENTRE TO MIDDLE RIGHT TO LOWER CENTRE TO MIDDLE LEFT",
    "1FBAB BOX DRAWINGS LIGHT DIAGONAL: UPPER CENTRE TO MIDDLE LEFT TO LOWER CENTRE TO MIDDLE RIGHT",
    "1FBAC BOX DRAWINGS LIGHT DIAGONAL: MIDDLE LEFT TO UPPER CENTRE TO MIDDLE RIGHT TO LOWER CENTRE",
    "1FBAD BOX DRAWINGS LIGHT DIAGONAL: MIDDLE RIGHT TO UPPER CENTRE TO MIDDLE LEFT TO LOWER CENTRE, DIAMOND",
    "1FBAF: BOX DRAWINGS LIGHT HORIZONTAL WITH VERTICAL STROKE, ARROWHEAD-SHAPED POINTER, INVERSE CHECK MARK",
    "1FBB2: LEFT HALF RUNNING MAN, RIGHT HALF RUNNING MAN, INVERSE DOWNWARDS ARROW WITH TIP LEFTWARDS",
    "1FBB5: LEFTWARDS ARROW AND UPPER AND LOWER ONE EIGHTH BLOCK",
    "1FBB6: RIGHTWARDS ARROW AND UPPER AND LOWER ONE EIGHTH BLOCK, DOWNWARDS ARROW AND RIGHT ONE EIGHTH BLOCK",
    "1FBB8: UPWARDS ARROW AND RIGHT ONE EIGHTH BLOCK, LEFT HALF FOLDER, RIGHT HALF FOLDER, VOIDED GREEK CROSS",
    "1FBBC: RIGHT OPEN SQUARED DOT; 1FBBD NEGATIVE DIAGONAL: CROSS, MIDDLE RIGHT TO LOWER CENTRE, DIAMOND",
    "1FBC0: WHITE HEAVY SALTIRE WITH ROUNDED CORNERS, LEFT THIRD WHITE RIGHT POINTING INDEX",
    "1FBC2: MIDDLE THIRD WHITE RIGHT POINTING INDEX, RIGHT THIRD WHITE RIGHT POINTING INDEX",
    "1FBC4: NEGATIVE SQUARED QUESTION MARK, STICK FIGURE",
    "1FBC6 STICK FIGURE: WITH ARMS RAISED, LEANING LEFT, LEANING RIGHT, WITH DRESS",
    "1FBCA WHITE UP-POINTING: CHEVRON",
    "1FBF0 SEGMENTED DIGIT: ZERO, ONE, TWO, THREE, FOUR, FIVE, SIX, SEVEN, EIGHT, NINE; E0001 LANGUAGE: TAG",
    "E0020 TAG: SPACE, EXCLAMATION MARK, QUOTATION MARK, NUMBER SIGN, DOLLAR SIGN, PERCENT SIGN, AMPERSAND",
    "E0027 TAG: APOSTROPHE, LEFT PARENTHESIS, RIGHT PARENTHESIS, ASTERISK, PLUS SIGN, COMMA, HYPHEN-MINUS",
    "E002E TAG: FULL STOP, SOLIDUS",
    "E0030 TAG DIGIT: ZERO, ONE, TWO, THREE, FOUR, FIVE, SIX, SEVEN, EIGHT, NINE",
    "E003A TAG: COLON, SEMICOLON, LESS-THAN SIGN, EQUALS SIGN, GREATER-THAN SIGN, QUESTION MARK",
    "E0040 TAG: COMMERCIAL AT",
    "E0041 TAG LATIN CAPITAL LETTER: A, B, C, D, E, F, G, H, I, J, K, L, M, N, O, P, Q, R, S, T, U, V, W, X",
    "E0059 TAG LATIN CAPITAL LETTER: Y, Z",
    "E005B TAG: LEFT SQUARE BRACKET, REVERSE SOLIDUS, RIGHT SQUARE BRACKET, CIRCUMFLEX ACCENT, LOW LINE",
    "E0060 TAG: GRAVE ACCENT",
    "E0061 TAG LATIN SMALL LETTER: A, B, C, D, E, F, G, H, I, J, K, L, M, N, O, P, Q, R, S, T, U, V, W, X, Y",
    "E007A TAG LATIN SMALL LETTER: Z",
    "E007B TAG: LEFT CURLY BRACKET, VERTICAL LINE, RIGHT CURLY BRACKET, TILDE; E007F CANCEL: TAG",
    "E0100 VARIATION: SELECTOR-17, SELECTOR-18, SELECTOR-19, SELECTOR-20, SELECTOR-21, SELECTOR-22",
    "E0106 VARIATION: SELECTOR-23, SELECTOR-24, SELECTOR-25, SELECTOR-26, SELECTOR-27, SELECTOR-28",
    "E010C VARIATION: SELECTOR-29, SELECTOR-30, SELECTOR-31, SELECTOR-32, SELECTOR-33, SELECTOR-34",
    "E0112 VARIATION: SELECTOR-35, SELECTOR-36, SELECTOR-37, SELECTOR-38, SELECTOR-39, SELECTOR-40",
    "E0118 VARIATION: SELECTOR-41, SELECTOR-42, SELECTOR-43, SELECTOR-44, SELECTOR-45, SELECTOR-46",
    "E011E VARIATION: SELECTOR-47, SELECTOR-48, SELECTOR-49, SELECTOR-50, SELECTOR-51, SELECTOR-52",
    "E0124 VARIATION: SELECTOR-53, SELECTOR-54, SELECTOR-55, SELECTOR-56, SELECTOR-57, SELECTOR-58",
    "E012A VARIATION: SELECTOR-59, SELECTOR-60, SELECTOR-61, SELECTOR-62, SELECTOR-63, SELECTOR-64",
    "E0130 VARIATION: SELECTOR-65, SELECTOR-66, SELECTOR-67, SELECTOR-68, SELECTOR-69, SELECTOR-70",
    "E0136 VARIATION: SELECTOR-71, SELECTOR-72, SELECTOR-73, SELECTOR-74, SELECTOR-75, SELECTOR-76",
    "E013C VARIATION: SELECTOR-77, SELECTOR-78, SELECTOR-79, SELECTOR-80, SELECTOR-81, SELECTOR-82",
    "E0142 VARIATION: SELECTOR-83, SELECTOR-84, SELECTOR-85, SELECTOR-86, SELECTOR-87, SELECTOR-88",
    "E0148 VARIATION: SELECTOR-89, SELECTOR-90, SELECTOR-91, SELECTOR-92, SELECTOR-93, SELECTOR-94",
    "E014E VARIATION: SELECTOR-95, SELECTOR-96, SELECTOR-97, SELECTOR-98, SELECTOR-99, SELECTOR-100",
    "E0154 VARIATION: SELECTOR-101, SELECTOR-102, SELECTOR-103, SELECTOR-104, SELECTOR-105, SELECTOR-106",
    "E015A VARIATION: SELECTOR-107, SELECTOR-108, SELECTOR-109, SELECTOR-110, SELECTOR-111, SELECTOR-112",
    "E0160 VARIATION: SELECTOR-113, SELECTOR-114, SELECTOR-115, SELECTOR-116, SELECTOR-117, SELECTOR-118",
    "E0166 VARIATION: SELECTOR-119, SELECTOR-120, SELECTOR-121, SELECTOR-122, SELECTOR-123, SELECTOR-124",
    "E016C VARIATION: SELECTOR-125, SELECTOR-126, SELECTOR-127, SELECTOR-128, SELECTOR-129, SELECTOR-130",
    "E0172 VARIATION: SELECTOR-131, SELECTOR-132, SELECTOR-133, SELECTOR-134, SELECTOR-135, SELECTOR-136",
    "E0178 VARIATION: SELECTOR-137, SELECTOR-138, SELECTOR-139, SELECTOR-140, SELECTOR-141, SELECTOR-142",
    "E017E VARIATION: SELECTOR-143, SELECTOR-144, SELECTOR-145, SELECTOR-146, SELECTOR-147, SELECTOR-148",
    "E0184 VARIATION: SELECTOR-149, SELECTOR-150, SELECTOR-151, SELECTOR-152, SELECTOR-153, SELECTOR-154",
    "E018A VARIATION: SELECTOR-155, SELECTOR-156, SELECTOR-157, SELECTOR-158, SELECTOR-159, SELECTOR-160",
    "E0190 VARIATION: SELECTOR-161, SELECTOR-162, SELECTOR-163, SELECTOR-164, SELECTOR-165, SELECTOR-166",
    "E0196 VARIATION: SELECTOR-167, SELECTOR-168, SELECTOR-169, SELECTOR-170, SELECTOR-171, SELECTOR-172",
    "E019C VARIATION: SELECTOR-173, SELECTOR-174, SELECTOR-175, SELECTOR-176, SELECTOR-177, SELECTOR-178",
    "E01A2 VARIATION: SELECTOR-179, SELECTOR-180, SELECTOR-181, SELECTOR-182, SELECTOR-183, SELECTOR-184",
    "E01A8 VARIATION: SELECTOR-185, SELECTOR-186, SELECTOR-187, SELECTOR-188, SELECTOR-189, SELECTOR-190",
    "E01AE VARIATION: SELECTOR-191, SELECTOR-192, SELECTOR-193, SELECTOR-194, SELECTOR-195, SELECTOR-196",
    "E01B4 VARIATION: SELECTOR-197, SELECTOR-198, SELECTOR-199, SELECTOR-200, SELECTOR-201, SELECTOR-202",
    "E01BA VARIATION: SELECTOR-203, SELECTOR-204, SELECTOR-205, SELECTOR-206, SELECTOR-207, SELECTOR-208",
    "E01C0 VARIATION: SELECTOR-209, SELECTOR-210, SELECTOR-211, SELECTOR-212, SELECTOR-213, SELECTOR-214",
    "E01C6 VARIATION: SELECTOR-215, SELECTOR-216, SELECTOR-217, SELECTOR-218, SELECTOR-219, SELECTOR-220",
    "E01CC VARIATION: SELECTOR-221, SELECTOR-222, SELECTOR-223, SELECTOR-224, SELECTOR-225, SELECTOR-226",
    "E01D2 VARIATION: SELECTOR-227, SELECTOR-228, SELECTOR-229, SELECTOR-230, SELECTOR-231, SELECTOR-232",
    "E01D8 VARIATION: SELECTOR-233, SELECTOR-234, SELECTOR-235, SELECTOR-236, SELECTOR-237, SELECTOR-238",
    "E01DE VARIATION: SELECTOR-239, SELECTOR-240, SELECTOR-241, SELECTOR-242, SELECTOR-243, SELECTOR-244",
    "E01E4 VARIATION: SELECTOR-245, SELECTOR-246, SELECTOR-247, SELECTOR-248, SELECTOR-249, SELECTOR-250",
    "E01EA VARIATION: SELECTOR-251, SELECTOR-252, SELECTOR-253, SELECTOR-254, SELECTOR-255, SELECTOR-256"]

end WireBridge.Text
