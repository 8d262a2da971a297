/-!
# Character names: the table

The names of the Unicode characters that have names of their own, in the order of their code
points, and after them the aliases: the corrections, control names, alternates, figments and
abbreviations that name a character too. The names of Hangul syllables and of unified
ideographs are not here, since they are made from the code point (`CharName`), nor are the
names of sequences of characters.

The table is a string of entries, cut into lines. An entry is a mark, a character from U+0100
to U+017F that says how many leading characters it shares with the name before it (U+0100 for
none, U+0101 for one, and so on), then the rest of its name: capital letters, digits, spaces
and hyphens, and characters from U+0180 on, each standing for a piece of names that many share
(`pieces`, the first for U+0180). An entry names the code point after the one before it,
unless `#` and the upper-case hexadecimal digits of its code point come before its mark.

The marks and pieces used most are written with one byte each instead: a lower-case letter or
a sign that no name holds stands for the mark or piece at its place in `longForms`.
-/

namespace MailIngest.Text.CharName

/-- The pieces of names that the characters from U+0180 on stand for, in order. -/
def pieces : Array String := #[
  "LETTER ", "WITH ", "CAPITAL ", "SMALL ", "ISOLATED FORM", "FINAL FORM", "INITIAL FORM",
  "RIGHTWARDS ", "RIGHT ", "DOUBLE ", "AND ", "VERTICAL ", "TRIANGLE-HEADED ", "LEFTWARDS ",
  "LEFT ", "POINTING ", "ARROW ", "ARROW", "ABOVE", "SIGN ", "WHITE ", "BELOW", "MIDDLE ", "BLACK ",
  "HORIZONTAL ", "MEDIAL FORM", "DOWNWARDS ", "ALEF MAKSURA ", "STROKE", "SYMBOL", "THOUSAND",
  "WEST-CREE ", "HEAVY ", "SIGN", "TIMES ", "DIGIT ZERO", "UPWARDS ", "BRACKET", "REVERSED ",
  "CIRCUMFLEX ", "MARK", "ROTATED TWO HUNDRED SEVENTY ", "GREATER-THAN ", "HUNDRED",
  "ROTATED NINETY DEGREES", "INVERTED ", "DOT ", "VOWEL ", "RETROFLEX HOOK", "MEEM ",
  "YPOGEGRAMMENI", "PLUS ", "EQUAL TO", "TURNED ", "DIAERESIS", "LOWER ", "CIRCLE ", "OVER ",
  "HALF ", "VOCALIC ", "TRIANGLE", "THREE ", "UPPER ", "MEDIUM ", "SPOKED ASTERISK",
  "PROSGEGRAMMENI", "DOWN ", "SQUARE ", "EIGHT", "LESS-THAN ", "RIGHT", "NUMBER ", "FULL STOP",
  "LIGHT ", "ORNAMENT", "COMBINING ", "CIRCLED ", "BARB ", "ONE ", "PALATAL HOOK", "TWO ",
  "DESCENDER", "PARENTHESIS", "PERISPOMENI", "HARPOON ", "INDEX ", "FOUR", "DOTS ", "HREE",
  "DIAGONAL ", "ANUSVARA", "SOUTH EAST ", "CIRCLE", "THUMB ", "DASIA ", "PSILI ", "ACUTE", "HIGH ",
  "QUOTATION ", "EQUILATERAL ", "SQUARE", "JEEM ", "TORTOISE SHELL ", "EXCLAMATION ", "OPERATOR",
  "EVEN", "MACRON", "FINAL ", "LONG ", "OF ", "POINTED ", "CHESS KNIGHT ROTATED ", "NINE", "LATIN ",
  "ANGLE ", "CANDRABINDU", "OPEN ", "CROSSING ", "HOOK", "CIRCUMFLEX", "PUNCTUATION ", "TRIPLE ",
  "YEH ", "SIMPLIFIED ", "FLOORPLANE ", "SHORT ", "LOW ", "ANTICLOCKWISE ", "TRIANGULAR ",
  "SANS-SERIF ", "NORTH WEST ", "OLD COPTIC ", "ABBREVIATION ", "TILDE", "RING ", "WALLPLANE ",
  "QUESTION ", "LIGATURE ", "MODIFIER ", "HITTING ", "CONSONANT ", "LINE ", "GREATER-THAN", "FACE",
  "GRAVE", "ONE", "TWO", "GLOTTAL ", "PUNCTUATION", "YENISEI ", "CLOSED ", "DOTTED ", "HAH ",
  "HORIZONTAL", "ALTERNATE ", "CENTRE TO ", "SINGLE", "LITTLE ", "BLOCK", "EQUALS ", "FIVE ",
  "SEPARATOR", "VISARGA", "DEGREES", "LARGE ", "DOUBLE", "UNDERBAR", "QUARTER ", "EQUIVALENT TO",
  "BOTTOM ", "IDEOGRAPHIC ", "ORKHON ", "VARIA", "NORTH EAST ", "HEAD", "LESS-THAN", "ACCENT",
  "LEFT-", "BLACK", "EXTENDED ARABIC-INDIC DIGIT ", "FRACTION ", "TAIL", "LEFT", "SHADOWED ",
  "SLANTED ", "VIRAMA", "CARON", "KIYEOK", "DIAMOND", "FROM BAR", "INDEX", "COMMA", "BREVE", "UP ",
  "OUBLE DANDA", "SMALL", "CEDILLA", "REVERSE ", "NOT ", "HAMZA ", "SUPERSCRIPT ", "SCRIPT ", "IVE",
  "MEDIUM", "SIX", "OVERLAY", "IOTIFIED ", "SYLLABLE ", "MULTIPLICATION ", "CENTRE", "ARCHAIC ",
  "INSULAR ", "ARCHAION", "CURLY ", "RAISED ", "STAR", "TIKEUT", "LARGE", "ALTERNATING", "GREEK ",
  "CRYPTOGRAMMIC ", "CLOCKWISE ", "FINGERS ", "GUNU", "CROSS", "OXIA", "BAR", "SECTION ",
  "AVAGRAHA", "MAHAAPRAANA ", "THIEUTH", "PARTIAL DIFFERENTIAL", "INTERSECTION", "SMILING ",
  "LITTLE", "TO ", "HIEUH", "CORNER ", "ASTERISK", "STRAIGHT ", "ALEF ", "DOWNWARDS", "OBLIQUE ",
  "PIEUP", "CREE ", "WEST ", "LIGHT", "WENTY", "SIMALUNGUN ", "VERY ", "BOLD ", "FIST ", "DAGESH",
  "CHARACTER ", "QUADRUPLE ", "EPSILON ", "NEUTRAL ", "LUNATE SIGMA ", "VOICED SOUND ", "CONJOINED",
  "LINE", "FOR ", "DIGIT ", "CHESS ", "DIGRAPH", "OMEGA", "ALMOST ", "ARABIC ", "NOON ", "PERSET ",
  "FORWARD", "RING", "TOP ", "TENU", "OR ", "DOT", "DIALYTIKA ", "UPSILON ", "ALPAPRAANA ",
  "MUSICAL ", "LOGICAL ", "INTEGRAL", "VERTICAL", "THROUGH ", "OLD NUBIAN ", "ITERATION ",
  "LENTICULAR ", "NEPOSTOYANNAYA", "WRIST FLEX", "CYRILLIC ", "LENGTH ", "KHIEUKH", "PHIEUPH",
  "INDEPENDENT ", "MOVEMENT-", "COLON", "SIOS", "SSANG", "CIEUC", "HINGE ", "END ", "NGA", "FORM ",
  "CARRIER ", "SOLIDUS", "SHAPED ", "CHARACTERS", "HEARTS", "NUKTA", "SHORT-TWIG-", "PRECEDES ",
  "SUCCEEDS ", "HIRAGANA ", "COMPRESSED ", "NYA", "SPACE", "UPSILON", "ALPHA", "GAMMA", "RISING ",
  "ROTATED ", "HORN ", "EVICE CONTROL ", "DASH ", "HEAVY", "POVYSHE ", "S KHOKHLOM ON ", "STRAIGHT",
  "SHA", "QUADRANT CIRCULAR ARC", "ABKHASIAN ", "HEH ", "SIDEWAYS ", "TEEN", "DOWN", "QUARTERS ",
  "TEARDROP-", "PINWHEEL ", "DIALECT-P ", "LAMEDH", "OMICRON", "EPSILON", "BIG YUS", "CANDRA ",
  "MATHEMATICAL ", "DASHED ", "PRODUCT", "NORMAL SUBGRO", "SUBSTITUTION ", "NT FORM", "TONOS",
  "NUMERAL ", "ROUNDED ", "INITIAL ", "KAPYEOUN", "MIEUM", "RIEUL", "NASKAPI ", "MULTIPLE",
  "ELEMENT ", "CONTAINING ", "INVERSE ", "NOTE", "TWELFTHS", "TEN", "SAMEKH", "INSIDE", "CORNER",
  "SOUTH ", "SPADES", "SIGMA", "NIEUN", "MOON ", "NIZKO S KRYZHEM ON ", "THUMB", "FACING ",
  "LONG-BRANCH-", "STRUCK ", "INFORMATION ", "ITALIC ", "LOZENGE", "CONTAINS ", "TURNSTILE",
  "NOTATION "]

/-- The characters that stand for the marks and pieces used most, each for the one at its
place in `longForms`. -/
def shortForms : String := "abcdefghijklmnopqrstuvwxyz!$%&()*+,.:;<=>?@[]^_|~"

def longForms : String := "ĀēďƁĎĕĐĘƀĔđėĒčĆĖęƃğĠČĚƂƊĢćěĉĜĝċƒƑĞĊĈƈġƎƨơƕƓȑƅƉƐƄǖ"

/-- The names of the characters, and their aliases, written as described above; the lines are
read one after the other as one string. -/
def table : List String := [
  "#20aʻaǧ=aǢ=aǇ>aDOLLAR >aPERCENT >aAMPERSANDāPOSTROPHEa<ǒa:ǒaɮaƳ>aȿaHYPHEN-MINUSaǈaʰaƣo[oȒzǘo~zɊoɌzǩoǄoǰaʧaSEMIʧaǅ>aȟ>aƪ>aȈ=aCOMMERCIAL ATaǱwiAfBfCfDfEfFfGfHfIfJfKfLfMfNfOfPfQfRfSfTfUfVfWfXfYfZāEFT ǃƥaɅʰāIGHT ǃƥaƧȰaǾʄaȐ ȰaǱriAbBbCbDbEbFbGbHbIbJbKbLbMbNbObPbQbRbSbTbUbVbWbXbYbZāEFT ɕƥaƋʄa:ɕƥaȅ#A0aNO-BREAK ʻaƭǧ=aCENT >aPOUND >aCURRENCY >aYEN >aBROKEN ɢaɣ>aƶaCOPY:>aFEMIǰ ORDINAL INDICATORaȱƏ^ǲǢ=aɆ>aSOFT HYPHENaREGISTERED >aǪaDEGREE >aPLUS-MINUS >aɈȒnǘaǠ ȰaMICRO >aPILCROW >aƖʓaɄaɈ[aMASCUȍORDINAL INDICATORaǆ-Ə^ǲǢ=aVULGAR ȴ[ QUARTERjHALFgƽQUARTERSaƭȈ=aǱwiA dȐ%Ǡ%Ƿ%ȅ%ƶ%Ȇ)pEfC dɄfE dȐ%Ǡ%Ƿ%ƶfI dȐ%Ǡ%Ƿ%ƶfETHfN dȅfO dȐ%Ǡ%Ƿ%ȅ%ƶaɐ>aǱwiO dƜfU dȐ%Ǡ%Ƿ%ƶfY dǠfTHORNoriˈRP SbA dȐvǠvǷvȅvƶvȆ)jEbC dɄbE dȐvǠvǷvƶbI dȐvǠvǷvƶbETHbN dȅbO dȐvǠvǷvȅvƶaDIVISION >aǱriO dƜbU dȐvǠvǷvƶbY dǠbTHORNbY dƶowiA dǪoriA dǪowiA dɀoriA d",
  "ɀowiA dOG[KoriA dOG[KowiC dǠoriC dǠowiC dǷoriC dǷowiC dƮ)oriC dƮ)owiC dȺoriC dȺowiD dȺoriD dȺowiD dƜoriD dƜowiE dǪoriE dǪowiE dɀoriE dɀowiE dƮ)oriE dƮ)owiE dOG[KoriE dOG[KowiE dȺoriE dȺowiG dǷoriG dǷowiG dɀoriG dɀowiG dƮ)oriG dƮ)owiG dɄoriG dɄowiH dǷoriH dǷowiH dƜoriH dƜowiI dȅoriI dȅowiI dǪoriI dǪowiI dɀoriI dɀowiI dOG[KoriI dOG[KowiI dƮ)oriʓLESS IowȉIJorȉIJowiJ dǷoriJ dǷowiK dɄoriK dɄjRAowiL dǠoriL dǠowiL dɄoriL dɄowiL dȺoriL dȺowiL dƖʓoriL dƖʓowiL dƜoriL dƜowiN dǠoriN dǠowiN dɄoriN dɄowiN dȺoriN dȺfPRECEDED BY APOSTROPHEowiENGoriENGowiO dǪoriO dǪowiO dɀoriO dɀowiO d^ǠoriO d^ǠowȉOEorȉOEowiR dǠoriR dǠowiR dɄoriR dɄowiR dȺoriR dȺowiS dǠoriS dǠowiS dǷoriS dǷowiS dɄoriS dɄowiS dȺoriS dȺowiT dɄoriT dɄowiT dȺoriT dȺowiT dƜoriT dƜowiU dȅoriU dȅowiU dǪoriU dǪowiU dɀoriU dɀowiU dȆ)oriU dȆ)owiU d^",
  "ǠoriU d^ǠowiU dOG[KoriU dOG[KowiW dǷoriW dǷowiY dǷoriY dǷowiY dƶfZ dǠoriZ dǠowiZ dƮ)oriZ dƮ)owiZ dȺoriZ dȺbǬSbB dƜowiB dǶ%TOPɢoriB dTOPɢowiT[ ɌoriT[ ɌowiǴOfC dǶoriC dǶowiAFRICAN DfD dǶ%TOPɢoriD dTOPɢbƵDELTAowiƦEfSCHWAfǴEfF dǶoriF dǶowiG dǶpAMMAoriHVowiIOTAp dƜfK dǶoriK dǶbL dɢjAMBDA dƜowiƵMfN d<ǶoriN dǬ:LEGowiO dƖȅ%HORNoriO dHORNowiOIoriOIowiP dǶoriP dǶoiYRowiT[ ȒoriT[ ȒowiESHoiƦESH LOOPoriT dǏowiT dǶoriT dǶowiT dưfU dHORNoriU dHORNowiʼfV dǶfY dǶoriY dǶowiZ dƜoriZ dƜowiEZHh REVERSEDoriEZH REVERSEDldȵoiǐdƜowiT[ FɊoriT[ FɊoiƭȓSʐdƜnWYNNnDENTAL CLICKnLATERAL CLICKnALVEOLAR CLICKnRETROFLEX CLICKowiDZ dȺp driZ dȺoriDZ dȺowiLJp driJoriLJowiNJp driJoriNJowiA dȺoriA dȺowiI dȺoriI dȺowiO dȺoriO dȺowiU dȺoriU dȺowiU dƶ xǪoriU dƶ xǪowiU dƶ xǠoriU dƶ xǠowiU dƶ xȺoriU dƶ xȺowiU dƶ xȐoriU dƶ xȐbƵEowiA dƶ",
  " xǪoriA dƶ xǪowiA dƮ) xǪoriA dƮ) xǪowiAE dǪoriAE dǪowiG dƜoriG dƜowiG dȺoriG dȺowiK dȺoriK dȺowiO dOG[KoriO dOG[KowiO dOG[K xǪoriO dOG[K xǪowiEZH dȺoriEZH dȺbJ dȺowiDZp driZoriDZowiG dǠoriG dǠowiHWAIRfWYNNfN dȐoriN dȐowiA dȆ) xǠoriA dȆ) xǠowiAE dǠoriAE dǠowiO dƜ xǠoriO dƜ xǠowiA d^ȐoriA d^ȐowiA dƭɀoriA dƭɀowiE d^ȐoriE d^ȐowiE dƭɀoriE dƭɀowiI d^ȐoriI d^ȐowiI dƭɀoriI dƭɀowiO d^ȐoriO d^ȐowiO dƭɀoriO dƭɀowiR d^ȐoriR d^ȐowiR dƭɀoriR dƭɀowiU d^ȐoriU d^ȐowiU dƭɀoriU dƭɀowiS dȿ ?oriS dȿ ?owiT dȿ ?oriT dȿ ?owiYOGHoriYOGHowiH dȺoriH dȺowiN dǬ:LEGoriD dCURLowiOUoriOUowiZ dǶoriZ dǶowiA dƮ)oriA dƮ)owiE dɄoriE dɄowiO dƶ xǪoriO dƶ xǪowiO dȅ xǪoriO dȅ xǪowiO dƮ)oriO dƮ)owiO dƮ) xǪoriO dƮ) xǪowiY dǪoriY dǪbL dCURLbN dCURLbT dCURLbʓLESS JjB ʈbQP ʈowiA dƜfC dƜoriC dƜowiL dɢfT dǙƜoriS dSWASH ȵbZ dSWASH ȵowiȓS",
  "TOPoriȓSTOPowiB dƜfU ɢfƵVfE dƜoriE dƜowiJ dƜoriJ dƜowirQ dǶ ȵoriQ dǶ ȵowiR dƜoriR dƜowiY dƜoriY dƜbƵAbʽbƵʽbB dǶbǴObC dCURLbD dȵvǶbƦEbSCHWAh dǶbǴEbƦǴEy dǶbȖƦǴEbʓLESS J dƜbG dǶbɉGoirwGoriʾbRAMS HORNbƵHbH dǶjENG dǶbI dƜjOTAoirwIoriL dƖȅvBELTvưjEZHbƵM! dǬLEGbM dǶbN d<ǶvưoirwNoriɢRED OoirwOEoriȖʉbPHIbƵR! dǬLEG;ǶbR dǬLEGvȵvFISHǶjEVERSED R dFISHǶoirwR!ƭRoriS dǶbESHbʓLESS J dƜ xǶbSQUAT ƦESHbESH dCURLbƵTj dưbU ɢjPSILONbV dǶbƵVvWvYoirwYoriZ dưvCURLbEZHp dCURLoiȓSTOPnPHARYNGEAL VOICED FRICATɊnƭȓSTOPnSTRETCHED CnBILABIAL CLICKnrwBoriȖǴEoirwG dǶ!HoriJ dɠED-ȵbƵKoirwLoriQ dǶoiȓSʐdƜnƦȓSʐdƜoriDZ ʈjEZH ʈjZ ʈ dCURLbTS ʈjESH ʈjC ʈ dCURLbFENG ʈbLS ʈjZ ʈoiBILABIAL PERCUSSɊcDENTAL PERCUSSɊoriƵH dFISHǶĩ xȵaȊirHl dǶpJpRpƵR+ dǶpwƭRpWpYgPRIMEg^PRIMEgƵȿgAPOSTROPHEgƦȿkIGHT ƺʏg<ƺʏgȓSTOPgƦȓSTOPg<*Ȯg:*ȮgɁ*Ȯgǂ*ȮgƧȰaȺaȊiƋʄ",
  "gǪgǠ ȰgȐ ȰgǾƋʄjǪjȐ ȰjǠ ȰgȀʧgƺȀʧgɑD :ƺʏh<ƺʏgɁTACKgǂTACKgƳ>gMINUS >aɀaƮ)aȆ)aOG[Karȅa^Ǡ ȰaȊiRHOTIC Ƕgɠ ȰgrʾpLpSpXpƦȓSTOPgEXTRA-ǡT[ ɢgǡT[ ɢgMID T[ ɢgǾT[ ɢgEXTRA-ǾT[ ɢgYIN DEPARTING T[ =kANG DEPARTING T[ =gVOICINGgUNASPIRATEDg^APOSTROPHEgǾǂ*ȮjɁ*Ȯj<*Ȯj:*ȮpNGgƖȐ Ȱl^Ȑ Ȱ+Ǡ ȰgǾȅgɖʧgBEGIN ǡT[gʬǡT[gBEGIN ǾT[gʬǾT[gSHELFgǴSHELFgǾ<*aǋȐ Ȱ,Ǡ Ȱ,ƧȰ,ȅ,Ǫ,OVERʄ,ɀ,Ʈ)(IAERESIS,Ƕ ),Ȇ),^Ǡ Ȱ,Ⱥ,Ƌȍ),^Ƌȍ)kȐ Ȱ,ǳ,ƭɀ,Ƶȿ ),ȿ ),Ʀȿ ),ȿ ) ǆ,Ȑ Ȱ ?,Ǡ Ȱ ?,<TACK ?,:TACK ?,<ǲ),HORN,<ƺȆ?,ɁTACK ?,ǂTACK ?,Ƴ@?,MINUS @?,PALATALIZED Ƕ ?,ư ?,Ʈ?(IAERESIS ?,Ȇ?,ȿ ?(EDILLA,OG[K,Ƌȍ?,BRIDGE ?,ƭ^ARCH ?,Ⱥ ?(IRCUMFLEX Ȱ ?,ɀ ?,ƭɀ ?,ȅ ?,Ǫ ?,Ǿʄ,^Ǿʄ,ȅ ɍ,ǽƜ ɍ,ǬƜ ɍ,ǽʰ ɍ,Ǭʰ ɍ,:ƺȆ?,ƭBRIDGE ?,ǃ?(EAGULL ?,X ),Ƌȅ,^OVERʄ,Ȑ T[ =,Ǡ T[ =,ɛǓgKORONISgʔ˞gƲ,BRIDGE ),ȟ@?,^Ƌȍ?,<ǲ?,Ɇȅ ),HOMOTHETIC ),ʊƴ ),<:_?,Ƥ_?,GRAPHEME JOINER,:*Ȯ ),<ƺȆ),FERMATA,X ?,<*Ȯ ?,:*Ȯ ?vxɁ*Ȯ",
  " ?gƺȆ),Ʈ) ǆ,ɮ ?,^Ȇ?,ZIGZAG ),^ɀ ?pkǪl ?kȅkƭɀkƇ_?,ǱriA&E&I&O&U&C&D&H&M&R&T&V&XaɛwiHETAoriHETAowiɒSAMPIoriɒSAMPIo˟>oƷ˟>owiPAMPHYLIAN DIʾoriPAMPHYLIAN DIʾ#37AoƲorƦʁƝuȗʁƝuƦȗʁƝoȈ=owiYOT#384o˞oʔ˞owiʽ d˞oANO TELEIAowiɿd˞pTA d˞fIOTA d˞#38Cf˔ d˞#38Efʕd˞fʉ d˞oriIOTA dʔx˞owiʽfBETAfʾfDELTAf˕fZETAfETAfTHETAfIOTAfKAPPAfLAMDAfMUfNUfXIf˔fPIfRHO#3A3f˲fTAUfʼfPHIfCHIfPSIfʉfIOTA dDIALYTIKAfʕdDIALYTIKAoriʽ d˞bɿd˞jTA d˞bIOTA d˞bʕdʔx˞bʽbBETAbʾbDELTAb˕bZETAbETAbTHETAbIOTAbKAPPAbLAMDAbMUbNUbXIb˔bPIbRHObǫ˲b˲bTAUbʼbPHIbCHIbPSIbʉbIOTA dDIALYTIKAbʕdDIALYTIKAb˔ d˞bʕd˞bʉ d˞owKAI ƝoBETA ƝoTHETA ƝoʕdǶ ƝbǠ xǶ Ɲbƶ xǶ ƝoPHI ƝzI ƝoKAI ƝoiɒKOPPAoriɒKOPPAoiSTIGMAoriSTIGMAoiDIʾoriDIʾoiKOPPAoriKOPPAoiSAMPIoriSAMPIaCOPTIC wiSHEIzriSHEIzwiFEIzriFEIzwiKHEIzriKHEIzwiHORIzriHORIzwiGANGIAzriGANGIAzwiSHIMAzriSHIMAzwiDEIzriDEIaɛKAPPA ƝoR",
  "HO ƝoʁƝzETTER YOTowTHETA ƝoLUNATE ɿƝoƦLUNATE ɿƝowiSHOoriSHOowʁƝcETTER SANoriSANoRHO dƜ ƝowƦʁƝeȗʁƝeƦȗʁƝaʡwiIE dȐqOhDJEhGJEhUKRAINIAN IEhDZEhBYELORUSSIAN-UKRAINIAN IhYIhJEhLJEhNJEhTSHEhKJEhI dȐhǽUhDZHEhAhBEhVEhGHEhDEhIEhZHEqEhIhǽIhKAhELqMqNhOhPEhERqShTEhUhEFhHAhTSEhCHEhˈvCHAhHARD >hYERUhSOFT >hEhYUqA$riApBEpVEpGHEpDEpIEpZHElEpIpǽIpKApELlMlNpOpPEpERlSpTEpUpEFpHApTSEpCHEpˈhCHApHARD >pYERUpSOFT >pEpYUlApIE dȐlOpDJEpGJEpUKRAINIAN IEpDZEpBYELORUSSIAN-UKRAINIAN IpYIpJEpLJEpNJEpTSHEpKJEpI dȐpǽUpDZHE$wiʉ$riʉ$wiYAT$riYAT$wiɎE$riɎE$wiȝYUS$riȝYUS$wiɎȝYUS$riɎȝYUS$wi˖$ri˖$wiɎ˖$riɎ˖$wiKSI$riKSI$wiPSI$riPSI$wiFITA$riFITA$wiIZHITSA$riIZHITSA$wiIZHITSA d^Ȑ Ȱ$riIZHITSA d^Ȑ Ȱ$wiUK$riUK$wiROUND ʉ$riROUND ʉ$wiʉ dTITLO$riʉ dTITLO$wiOT$riOT$wiKOPPA$riKOPPA$ƞS >āOMBINING ʡTITLObPALATALIZATIONbǞPNEUMATAbǟPNEUMATAjOK",
  "RYTIEbƫ ƞS >bMILLIONS >āYRILLIC wiǽI dȵ$riǽI dȵ$wiSEMISOFT >$riSEMISOFT >$wiER dTICK$riER dTICK$wiGHE dUPTURN$riGHE dUPTURN$wiGHE dƜ$riGHE dƜ$wiGHE dƖǶ$riGHE dƖǶ$wiZHE dǑ$riZHE dǑ$wiZE dǑ$riZE dǑ$wiKA dǑ$riKA dǑ$wiKA dƋƜ$riKA dƋƜ$wiKA dƜ$riKA dƜ$wiBASHKIR KA$riBASHKIR KA$wiEN dǑ$riEN dǑ$wȉEN GHE$rȉEN GHE$wiPE dƖǶ$riPE dƖǶ$wiˊHA$riˊHA$wiES dǑ$riES dǑ$wiTE dǑ$riTE dǑ$wiɯU$riɯU$wiɯU dƜ$riɯU dƜ$wiHA dǑ$riHA dǑ$wȉTE TSE$rȉTE TSE$wiCHE dǑ$riCHE dǑ$wiCHE dƋƜ$riCHE dƋƜ$wiSHHA$riSHHA$wiˊCHE$riˊCHE$wiˊCHE dǑ$riˊCHE dǑ$iPALOCHKA$wiZHE dɀ$riZHE dɀ$wiKA dǶ$riKA dǶ$wiEL dȵ$riEL dȵ$wiEN dǶ$riEN dǶ$wiEN dȵ$riEN dȵ$wiKHAKASSIAN CHE$riKHAKASSIAN CHE$wiEM dȵ$riEM dȵpPALOCHKA$wiA dɀ$riA dɀ$wiA dƶ$riA dƶ$wȉA IE$rȉA IE$wiIE dɀ$riIE dɀ$wiSCHWA$riSCHWA$wiSCHWA dƶ$riSCHWA dƶ$wiZHE dƶ$riZHE dƶ$wiZE dƶ$riZE dƶ$wiˊDZ",
  "E$riˊDZE$wiI dǪ$riI dǪ$wiI dƶ$riI dƶ$wiO dƶ$riO dƶ$wiɢRED O$riɢRED O$wiɢRED O dƶ$riɢRED O dƶ$wiE dƶ$riE dƶ$wiU dǪ$riU dǪ$wiU dƶ$riU dƶ$wiU d^Ǡ$riU d^Ǡ$wiCHE dƶ$riCHE dƶ$wiGHE dǑ$riGHE dǑ$wiYERU dƶ$riYERU dƶ$wiGHE dƜ xǶ$riGHE dƜ xǶ$wiHA dǶ$riHA dǶ$wiHA dƜ$riHA dƜ$wiKOMI DE$riKOMI DE$wiKOMI DJE$riKOMI DJE$wiKOMI ZJE$riKOMI ZJE$wiKOMI DZJE$riKOMI DZJE$wiKOMI LJE$riKOMI LJE$wiKOMI NJE$riKOMI NJE$wiKOMI SJE$riKOMI SJE$wiKOMI TJE$riKOMI TJE$wiƦZE$riƦZE$wiEL dǶ$riEL dǶ$wiLHA$riLHA$wiRHA$riRHA$wiYAE$riYAE$wiQA$riQA$wiWE$riWE$wiALEUT KA$riALEUT KA$wiEL dƖǶ$riEL dƖǶ$wiEN dƖǶ$riEN dƖǶ$wiPE dǑ$riPE dǑ$wiSHHA dǑ$riSHHA dǑ$wiEN d<Ƕ$riEN d<Ƕ$wiDZZHE$riDZZHE$wiDCHE$riDCHE$wiEL dǑ$riEL dǑ#531aARMENIAN wiAYBhBENhGIMhDAhECHhZAhEHqThTOhZHEhINIhLIWNhXEHhCAhKENhHOhJAhGHADhCHEHhMENhYIhNOWhˈhVOhCHAhPEHhJHEHhRAhSE",
  "HhVEWhTIWNhREHhCOhYIWNhPIWRhKEHhOHhFEH#559$Ȋi<ƺʏ$APOSTROPHE$EMPHASIS =,XCLAMATION =$ȿ$Ȉ=$Ȅ=$riƵAYBpAYBpBENpGIMpDApECHpZApEHlTpTOpZHEpINIpLIWNpXEHpCApKENpHOpJApGHADpCHEHpMENpYIpNOWpˈpVOpCHApPEHpJHEHpRApSEHpVEWpTIWNpREHpCOpYIWNpPIWRpKEHpOHpFEHgIGATURE ECH YIWNgETTER YI dƜ$ǈ$HYPHEN#58Daǆ-˷ARMENIAN ETERNITY >aȱ˷ARMENIAN ETERNITY >aARMENIAN DRAM >#591aHEBREW Ȱ ETNAHTAeSEGOLcHALSHELETeZAQEF QATANjGADOLeTIPEHAeREVIAeZARQAePASHTAeYETIVeTEVIReGERESHj MUQDAMkˈYIMeQARNEY PARAeTELIˈ GEDOLAePAZEReATNAH HAFUKHeMUNAHcAHAPAKHcERKHAj KEFULAeDARGAeQADMAeTELIˈ QETANAeYERAH BEN YOMOeOLEeILUYeDEHIeZINORz= MASORA ǜzPOINT SHEVAnHATAF SEGOLbPATAHbQAMATSeIRIQnTSEREnSEGOLnPATAHnQAMATSnHOLAMm HASER ʅVAVnQUBUTSnɼ ʒMAPIQnMETEG.UNCTUATION MAQAF.OINT RAFE.UNCTUATION PASEQ.OINT SHIN ʓeIN ʓ.UNCTUATION SǭPASUQz= ƾʓuƷʓzǸNUN",
  " HAFUKHA.OINT QAMATS QATAN#5D0ziALEFeBETeGIMELeDALETeHEeVAVeZAYINeHETeTETeYODeǫKAFeKAFeLAMEDeǫMEMeMEMeǫNUNeNUNe˭eAYINeǫPEePEeǫTSADIeTSADIeQOFeRESHeSHINeTAV#5EFzYOD ƼzȉYIDDISH ^VAVhVAV YODh^YODzǸGERESHpˈYIM#600aʋǇ>z@SANAHzFOOT˪ =ERz@SAFHAeMVATzǇ= )o-INDIC CUBE ROOTn~TH ROOTo RAYo-INDIC PER MILLE >kˬ ƞ >āFGHANI >āRABIC ȿzDATE ȡzPOETIC VERSE >z@MISRAuSALLALLAHOU ALAYHE WASSALLAMuALAYHE ASSALLAMuRAHMATULLAH ALAYHEeDI ALLAHOU ANHUuTAKHALLUS.MALL ǡTAHmȉɰdLAM dYEHmZAINnFATHAnDAMMAnKASRA.EMIʧzi=zʬǭTEXT =zǹƮǸ=zȈ=ziKASHMIRI YEHeHAMZAeɰdMADDA )hɇ)eWAW dɇ)eɰdɇ?eǺdɇ)eALEFeBEHeTEH MARBUTAkcHEHeJEEMeHAHeKHAHeDALeTHALeREHeZAINeSEENcHEENcADeDADeTAHeZAHeAINeGHAINeKEˋdǐǗ)vǘ Ǘ?eFARSI ǺdƭV&ǐǗ)+ǘ Ǘ)zTATWEELziFEHeQAFeKAFeLAMeMEEMeNOONeHEHeWAWeɰMAKSURAeYEHzFATHATANzDAMMATANzKASRATANzFATHAzDAMMAzKASRAzˈDDA.UKUNzMA",
  "DDAH )zɇ)n?zSUBɉALEFzƭDAMMAz= ʌGHUNNAzZWARAKAYzƯ@rV )mƭrV )mƮ?zƦDAMMAzFATHA dǐʓSzWAVY ɇ?o-INDIC ƣb[bȒjǘb~jɊbɌjǩbǄbǰo PERCENT >zDECIMAL ȡzƞS ȡzȠǮɗziʓLESS BEHpQAFeɈALEFeɰWASLAjITH WAVY ɇ)ģ?eǡHAMZAh ALEFqWAWeU dɇ)eǡɇYEHeTTEHmEHeBEEHeTEH dʏlƽǗ) ɱePEHeTEHEHeBEHEHeȘdɇ)lǐǗƋ)eNYEHeDYEHeȘdƽǗ)eTCHEHbEHeDDALcAL dʏlƮ?t xrTAHgHALcDAHALcULcAL dƽǗ) ɱl~ Ǘ)eRREHcEH drVlʏlƮ?lrV ?lƮ? xƮ)lǐǗ)eJEHeREH d~ Ǘ)eSEEN dƮ? xƮ)hƽǗ?Ĩ xƽǗ)cAD dǐǗ?hǘ Ǘ)eTAH dƽǗ)eAIN dƽǗ)eʓLESS FEHeFEH dƮMOVED ?!?eVEHeFEH dƽǗ?ePEHEHeQAF dƮ)lƽǗ)eKEHEHeSWASH KAFeKAF dʏlƮ)eNGeKAF dƽǗ?eGAFk dʏeNGOEHeGAF dǐǗ?cUEHcAF dƽǗ)eLAM drVlƮ)lƽǗ)y?eʌdƮ?bGHUNNAeRNOONeʌdʏhƽǗ)eˋDOACHASHMEEeTCˋdƮ)eˋdǺ)mGOALp dɇ)eTEH MARBUTA GOALeWAW dʏeKIRGHIZ OEeOEeUeYUeKIRGHIZ YUeWAW dǐǗ)eVEeFARSI YEHeǺdȵlrVeWAW dƮ)eEeǺdƽǗ?mɢREEh dɇ)zǈziAEzrǡȉSAD dLAM dɰMAKSURA!QAF dLAM dɰ",
  "MAKSURAmƱƆmLAM ALEFmJEEMmƽʓSmSEENzʬǭAYAHzɗT ǭRUB EL HIZB.MALL ǡˠZEROmUP:RECTANGULAR ZEROmʓLESS Ȯ ǭKHAHmƱ|nǾSEENnǡMADDAnWAWnYEHnǡYEHmNOONzPLACE ǭSAJDAHzEMPTY ɑ ǾSTOPjǡSTOPzˠǡSʐdFILLED ɑzrǾMEEMziDAL dƭVeREH dƭVaȳZERO%[%Ȓ&ǘ%~&Ɋ%Ɍ&ǩ%Ǆ%ǰaʋiSHEEN dƮ?eDAD dƮ?eGHAIN dƮ?z@SINDHI AMPERSANDbPOSTPOSITION MENziˋdƭVaSYRIAC ʬǭPARAGRAPHzSUPRAʄAR ǈ$BʄAR ǈ$PRAʄAR ʧ$BʄAR ʧzƘʧzʧ SKEWED ȶjǆzSUPRAʄAR ʧ SKEWED ȶ$BʄAR ʧ SKEWED ǆzCONTRACTIONzHARKLEAN OBELUSgMETOBELUSgASTERISCUS#70FzȄ=ziALAPHeɈALAPHeBETHeGAMALb GARSHUNIeDALATHcOTLESS DALATH RISHeHEeWAWeZAINeHETHeTETHm GARSHUNIeYUDHm HEeKAPHeLAMADHeMIMeNUNeSEMKATHeǫSEMKATHeEePEeƦPEeSADHEeQAPHeRISHeSHINeTAWePERSIAN BHETHpGHAMALpDHALATHzPTHAHA )e?eʓTEDzZQAPHA )e?eʓTEDzRBASA )n?zȗZLAMA șjANGULARzHBASA )n?u-ESASA ʓTEDzESASA )n?zRWAHAzFEMIǰ ʓzQUSHˈYAzRUKKAKHAzǐƋǗ)q?.ǘ Ǘ)",
  "m?zɲȍ)j?zMUSICzɢREKH#74DziSOGDIAN ZHAINpKHAPHpFEaʋiBEH dƽǗșLY ?lƮ? xƽǗ)lƽǗƏƤ?ĸ xǐǗ)hWO Ǘ? xƮ)lƭrV ?lrVeȘdǐǗ)hǘ ǗƏƤ?eDAL dǐǗʚLY ? xrTAHlƭrV ?eREH dƜeSEEN d~ Ǘ)eAIN dǐǗ)hǘ ǗƏƚ)hWO ǗʚLY )eFEH dǐǗ?hǘ ǗƏƤ?eKEˋdƮ)qƽǗ)ĤƏƤ?eƱdƮ)%?eʌdǐǗ?hrTAH+VeLAM dɢeREH dǐǗʚLY )lɇ)eSEEN dǐǗʚLY )eȘdrʋiTAH ?įxǐʓSeSEEN drʋiTAH xǐʓSeREH drʋiTAH xǐʓSeȘdrʋiTAH )eɰdȳǐ)ĵǘ )eFARSI Ǻdȳǐ)ĺǘ )Ĺ~ ?eWAW dȳǐ)Ĵǘ )eǺɢREE dȳǐ)Ļǘ )eȘdȳ~ ?eSEEN dȳ~ )hƭVeKAF dǐǗ)aTHAANA iHAAeˈVIYANIeNOONUeRAAeBAAeLHAVIYANIeKAAFUeALIFUeVAAVUeMEEMUeFAAFUeDHAALUeTHAAeLAAMUeGAAFUcNAVIYANIeSEENUeDAVIYANIeZAVIYANIeTAVIYANIeYAAePAVIYANIeJAVIYANIeCHAVIYANIeTTAAeHHAAeKHAAeTHAALUeZAAeSHEENUcAADHUeDAADHUeTOeZOeAINUeGHAINUeQAAFUeWAAVUzABAFILI.ABAAFILIzIBIFILIzEEBEEFILIzUBUFILIzOOBOOFILIzEBEFILI.YBEYFILIzOBOFILI.ABOAFILIzSUKUNziNAA#7C0aNKO ƣ,[,Ȓ(ǘ,~(Ɋ,Ɍ(ǩ,Ǆ,ǰĄiA(",
  "EE(I(E(U(OOu(DAGBASINNA(N(BA(PA(TA(JA(CHA(DA(RAuRA(SA(GBA(FA(KA(LA(NA WOLOSO(MA(ʺuA(HA(WA(YA(ʺ WOLOSO(JONA JAgCHAgRAĄǋǽǡT[jǾT[jʿT[eǬDESCENDING T[bǡT[bǾT[bʿT[eNASALIZATION =e^Ʈ)ĄǡT[ APOSTROPHEĄǾT[ APOSTROPHEĄƝ OO DENNEN(GBAKURUNENĄȿĄǧ=ĄLAJAʺLAN#7FDĄDANTAYALANąOROME >ĄTAMAN >aSAMARITAN iALAFkBITkGAMANkDALATkIYkBAAkZENkITkTITkYUTkKAAFkLABATkMIMkNUNkSIʭATkINkFIkTSAADIYkQUFkRISHkˈNkTAAF,= INk-ALAFcOCCLUSIONcɼ(ODIFIER iEPENTHETIC YUT(ARK EPENTHETIC YUT,Ư@ǬEfEfOVERǬAAfǬAAfAAfOVERǬAfǬAfA,ȊiǽA,Ư@ǽAfǬUfU,ȊiI,Ư@ǬIfIfOfSUKUN,= NEQUDAA#830,ǸNEQUDAApAFSAAQlNGEDpBAUpATMAAUpSHIYYAALAA,Ȅ=,ǸMELODIC QITSApZIQAApQITSApZAEFpTURUpARKAANUpSǭMASHFAATpANNAAU#840aMANDAIC iHALQAcABgGgDgHcUSHENNAcAZcITcATTgKSAkgLgMgNgScINcAPgSZgQgRgSHgTcDUSHENNAcKADcAIN.AFFRICATION =.VOCALIZATION =.GEMINATION =#85E.Ȕ#860aSYRIAC iMALA",
  "YALAM ʭhJAhʺhTTAhNNAvNAhBHAhRAhLLAvLAhSSA#870aʋiɰdATTACHED FATHA;ʐ:FATHAh:ƖƜh<ƖƜhATTACHED KASRA;ȩ:KASRA;ROUND Ʈ)yIGHT ROUND ʓ;<ROUND ʓ;ROUND Ʈ?hƮ)hATTACHED ʐ:FATHA xƮ)h:ƖƜ xƮ)hATTACHED ȩ:KASRA xƮ);ʐ:FATHA x<ʏh:ƖƜ x<ʏhATTACHED ȩ:KASRA x<ʏ;:HAMZA;<HAMZAzTATWEEL dOVER˹HAMZAsWAWjǐǗ?ziTHIN YEHzBASEȍROUND ʓzɖROUND ʓziʌdƭrVeȘdƭrV ?eTAH dƮ?lƽǗ?eKEˋdǐǗʚLY ?zƋȵ#890zPOUND = ).IASTRE = )#898zrǡWORD AL-JUZnǾWORD ISHMAAMlMAALApTASHEELzMADDA WAAJIBzɈɰMOKHASSASzȥD MADDAzƺMADDA ƹMADDAziBEH drV ?lɇ)eǥdǐǗ)eTAH dǐǗ)eFEH dƮ? xƽǗ)eQAF dƮ?eLAM d^ɢeƱdƽǗ)eǺdǐǗ? xɇ)ĪƮ)eREH dLOOPeWAW dƮWITHINeROHINGYA YEHeǾALEFeDAL dƽǗ?eSAD dƽǗ?eGAF dƭƜeɯWAWeZAIN dƭV )eAIN dƽǗ?eKAF dƮ?eQAF dƮ? xNO Ǘ)eBEH drƱ)ePEH drƱ)eTEH drTEH )eREH drʌ)eǺdǐǗ? xrʌ)eAFRICAN FEHpQAFpNOONePEH drVeTEH drVcTEH drVcCˋdrVeKEˋdrVeGHAIN dƽǗ)eAFRICAN QAF dƽǗ",
  ")eǥdƽǗ)ģ?eLAM drʋiTAH )eGRAFzrFARSI YEHnǡFARSI YEHmǺɢREE dǐǗ?mWORD SAHmZAHzȤROUND Ʈ)l?zSUKUN ?zȤƸ?nROUND Ʈˮ Ƹ?zrǾWAWnǡWORD AR-RUBmSADmAINmQAFmʌdKASRAnǾʌdKASRAnǡWORD ATH-THALATHAhS-SAJDAhN-NISFlSAKTAlQIFlWAQFAmFOOT˪ =ERm@SAFHAzDISPUTED ʬǭAYAHzƵDAMMA ?zɕFATHAnDAMMAnKASRAnFATHATANnDAMMATANnKASRATANzT[ [ Ʈ)uǐǗ)uLOOP )u[ Ʈ?uǐǗ?uLOOP ?zǴFATHATANuDAMMATANuKASRATANzrǡWAWzFATHA dʏmƮ)zKASRA dƮ?z<*Ȯ )z:*Ȯ )z<*Ȯ ?z:*Ȯ ?z^:*Ȯ )ģ dʓz:*Ȯ ) dʓzDAMMA dʓz= ˌʌGHUNNAaDEVANAGARI @ƭǳgǳgǚgȢ(iǽAmAbAmIbImUbUmƻRvLm˗EmǽEmEmAIm˗OmǽOmOmAUmKAbHAmGAbHAmʭmCAbHAmJAbHAmʺmTTAjHAmDDAjHAmNNAmTAbHAmDAbHAmNAbNNAmPAbHAmBAbHAmMAmYAmRAbRAmLAbLAjLAmVAmˈbSAbAmHA(Ư@OElOE(@ʴgɤ(Ư@AApIlIpUlUpƻRsRp˗EpǽEpEpAIp˗OpǽOpOpAU(@ȹ(Ư@PRISHTHAMATRA EpAW(OM(STRESS @UDATTAlANUDATTA(Ȑ Ȱ(Ǡ Ȱ(Ư@˗ǬEpUElUE(iQAmKHHAmGHHAmZAmDDDHAmRHAmFAmYYAmƻRRvLL(Ư@ƻLsL(D",
  "ANDAuɂuIGIT ZEROk[kȒmǘk~mɊkɌmǩkǄkǰ(Ȅ>(@ǡSPACING ʓ(i˗AmOEbOEmAWmUEbUEmMARWARI DDAmZHAmƠYAmGGAmJJAmȓSTOPmDDDAmBBAaBEʭLI ANJI.@ǳnǚnȢ#985.iAgAcIgIcUgUcƻRlL#98FcEcAI#993cOcAUcKAgHAcGAgHAcʭcCAgHAcJAgHAcʺcTTAkHAcDDAkHAcNNAcTAgHAcDAgHAcNA#9AAcPAgHAcBAgHAcMAcYAcRA#9B2cLA#9B6cˈgSAgAcHA#9BC.@ʴnɤ.Ư@AAbIjIbUjUbƻR%R#9C7bEbAI#9CBbObAU.@ȹ.iKHANDA TA#9D7.AU ʢ=#9DC.iRRAgHA#9DFcYYAcƻRRlLL.Ư@ƻL%L#9E6.ƣe[eȒcǘe~cɊeɌcǩeǄeǰ.iRA dƖDIAGONALlƷDIAGONAL.RUPEE =e>.CURRENCY NUMERATʒ[!Ȓ%ǘ!~![ LESS THAN THE DENOMINATORkDENOMINATʒɌˍ.ISˈR.GANDA =.iVEDIC ǚ.Ȅ>.SANDHI =#A01aGURMUKHI @ADAK BINDIeBINDIeȢ#A05$iAkAgIkIgUkU#A0FgEEgAI#A13gOOgAUgKAkHAgGAkHAgʭgCAkHAgJAkHAgʺgTTAmHAgDDAmHAgNNAgTAkHAgDAkHAgNA#A2AgPAkHAgBAkHAgMAgYAgRA#A32gLAkLA#A35gVAgˈ#A38kAgHA#A3C$@ʴ#A3E$Ư@AAjIfIjUfU#A47jEEjAI#A4BjOOjAU$@ȹ#A51eUDAAT#A59$iKHHAgGHHAgZAgRR",
  "A#A5EgFA#A66$ƣc[cȒgǘc~gɊcɌgǩcǄcǰ$TIPPI$ADDAK$IRI$URA$EK ONKAR$@YAKASH$Ȅ>#A81ĂJARATI @ǳeǚeȢ#A85$iAkAgIkIgUkUgƻRhL$Ư˗E#A8F$iEgAI$Ư˗O#A93$iOgAUgKAkHAgGAkHAgʭgCAkHAgJAkHAgʺgTTAmHAgDDAmHAgNNAgTAkHAgDAkHAgNA#AAAgPAkHAgBAkHAgMAgYAgRA#AB2gLAkLA#AB5gVAgˈkSAkAgHA#ABC$@ʴeɤ$Ư@AAjIfIjUfUjƻR&Rj˗E#AC7jEjAIj˗O#ACBjOjAU$@ȹ#AD0$OM#AE0$iƻRRhLL$Ư@ƻL&L#AE6$ƣc[cȒgǘc~gɊcɌgǩcǄcǰ$Ȅ>$RUPEE >#AF9$iZHA$@SUKUNcHADDAeMADDAHeTǘ-Ʈʴ )eƸʴ )eȒ-Ƹʴ )#B01aORIYA @ǳ(ǚ(Ȣ#B05oiAeAnIeInUeUnƻRfL#B0FnEnAI#B13nOnAUnKAeHAnGAeHAnʭnCAeHAnJAeHAnʺnTTAcHAnDDAcHAnNNAnTAeHAnDAeHAnNA#B2AnPAeHAnBAeHAnMAnYAnRA#B32nLAeLA#B35nVAnˈeSAeAnHA#B3Co@ʴ(ɤoƯ@AAkImIkUmUkƻRvR#B47kEkAI#B4BkOkAUo@ȹ#B55(OVERʄoAI ʢ=zU ʢ=#B5CoiRRAeHA#B5FnYYAnƻRRfLLoƯ@ƻLvL#B66oƣu[uȒnǘu~nɊuɌnǩuǄuǰoISˈRoiWAoȴ[ QUARTERbHALFcƽQUARTERSc[ ɌˍTHbǄHcƽɌˍTHS#B82aTAMIL @ǚ(Ȣ#B85oiAeAnIeInUeU#B",
  "8EnEeEnAI#B92nOeOnAUnKA#B99nʭnCA#B9CnJA#B9EnʺnTTA#BA3nNNAnTA#BA8nNAeNNAnPA#BAEnMAnYAnRAeRAnLAeLAcLAnVAnˈeSAeAnHA#BBEoƯ@AAkImIkUmU#BC6kEmEkAI#BCAkOmOkAUo@ȹ#BD0oOM#BD7oAU ʢ=#BE6oƣu[uȒnǘu~nɊuɌnǩuǄuǰoǇˬn[ ƫkƞoDAY >oMONTH >oYEAR >oDEBIT >oCREDIT >oAS ) >oRUPEE >oǇ>#C00āELUGU @ǋǳ )nANDRABINDUuǚuȢuǋǚ )ziAcAeIcIeUcUeƻRpL#C0EeEcEeAI#C12eOcOeAUeKAcHAeGAcHAeʭeCAcHAeJAcHAeʺeTTAgHAeDDAgHAeNNAeTAcHAeDAcHAeNA#C2AePAcHAeBAcHAeMAeYAeRAcRAeLAcLAgLAeVAeˈcSAcAeHA#C3Cz@ʴuɤzƯ@AAmIbImUbUmƻR!R#C46mEbEmAI#C4AmObOmAUz@ȹ#C55zʢ=zAI ʢ=#C58ziTSAeDZAeRRRA#C5DeNAKAARA POLLU#C60eƻRRpLLzƯ@ƻL!L#C66zƣn[nȒeǘn~eɊnɌeǩnǄnǰ#C77z@SIDDHAMzȴƣ ʅODD POWERS ǭ~p[ ʅODD POWERS ǭ~pǐʅODD POWERS ǭ~lǘ ʅODD POWERS ǭ~p[ ʅǩ POWERS ǭ~pǐʅǩ POWERS ǭ~lǘ ʅǩ POWERS ǭ~z@TUUMUaKANNADA @SPACING ǳnǳnǚnȢnSIDDHAM.iAgAcIgIcUgUcƻRlL#C8EcEgEcAI#C92cOgOcAUcKAgH",
  "AcGAgHAcʭcCAgHAcJAgHAcʺcTTAkHAcDDAkHAcNNAcTAgHAcDAgHAcNA#CAAcPAgHAcBAgHAcMAcYAcRAgRAcLAgLA#CB5cVAcˈgSAgAcHA#CBC.@ʴnɤ.Ư@AAbIjIbUjUbƻR%R#CC6bEjEbAI#CCAbOjObAU.@ȹ#CD5.ʢ=.AI ʢ=#CDD.iNAKAARA POLLUcFA#CE0cƻRRlLL.Ư@ƻL%L#CE6.ƣe[eȒcǘe~cɊeɌcǩeǄeǰ#CF1.@JIHVAMULIYAnUPADHMANIYA#D00aMALAYALAM @ǋǚ )gANDRABINDUcǚcȢ,iVEDIC ǚkAmAkImIkUmUkƻRqL#D0EkEmEkAI#D12kOmOkAUkKAmHAkGAmHAkʭkCAmHAkJAmHAkʺkTTAbHAkDDAbHAkNNAkTAmHAkDAmHAkNAmNNAkPAmHAkBAmHAkMAkYAkRAmRAkLAmLAbLAkVAkˈmSAmAkHAkTTTA,@Ƌɢ ȹcCIRCULAR ȹcɤ,Ư@AAfIpIfUpUfƻR+R#D46fEpEfAI#D4AfOpOfAU,@ȹ,iƮREPH,@PARA#D54,iCHILLU MhYhLLL,AU ʢ=,ȴ[ [-ƫ-AND-ɌTIETHlFORTIETHbƽǄIETHSb[ TWENTIETHhENTHbƽTWENTIETHSb[ FIFTH,iɒIIkƻRRqLL,Ư@ƻL+L#D66,ƣg[gȒkǘg~kɊgɌkǩgǄgǰ,Ǉˬk[ ƫfƞ,ȴ[ QUARTERlHALFbƽQUARTERSb[ ɌˍTHlǄHbƽɌˍTHS,DATE =,iCHILLU NNqhRRhLqLhK#D81aSINHALA @ǳnǚYAnȢYA#D85.iAYANNAgAYAN",
  "NAgEYANNAkEYANNAcIYANNAgIYANNAcUYANNAgUYANNAcIRUYANNAmUYANNAgLUYANNAmUYANNAcEYANNAgEYANNAcAIYANNAcOYANNAgOYANNAcAUYANNA#D9AgLPAPRAANA KAYANNAcɥKAYANNAcʖGAYANNAcɥGAYANNAcKANTAJA NAASIKYAYAcSAʺKA GAYANNAcʖCAYANNAcɥCAYANNAcʖJAYANNAcɥJAYANNAcTAALUJA NAASIKYAYAlSANYOOGA NAAKSIKYAYAcSAʺKA JAYANNAcʖTTAYANNAcɥTTAYANNAcʖDDAYANNAcɥDDAYANNAgUURDHAJA NAYANNAcSAʺKA DDAYANNAcʖTAYANNAcɥTAYANNAcʖDAYANNAcɥDAYANNAcDANTAJA NAYANNA#DB3cSAʺKA DAYANNAcʖPAYANNAcɥPAYANNAcʖBAYANNAcɥBAYANNAkYANNAcAMBA BAYANNAcYAYANNAcRAYANNA#DBDcDANTAJA LAYANNA#DC0cVAYANNAcTAALUJA SAYANNAcMUURDHAJA SAYANNAcDANTAJA SAYANNAcHAYANNAcMUURDHAJA LAYANNAcFAYANNA#DCA.@AL-LAKUNA#DCF.Ư@AELA-PILLAbKETTI AEDA-PILLAbDIGA AEDA-PILLAbKETTI IS-PILLAbDIGA IS-PILLAbKETTI PAA-PILLA#DD6bDIGA PAA-PILLA#DD8bGAETTA-PILLAbKOMBUVAbDIGA KOMBUVAbKOMBU DEKAhV",
  "A HAA AELA-PILLAsDIGA AELA-PILLAsGAYANUKITTAbGAYANUKITTA#DE6.LITH ƣb[bȒjǘb~jɊbɌjǩbǄbǰ#DF2.Ư@DIGA GAETTA-PILLAvYANUKITTA.ǸKUNDDALIYA#E01aTHAI ɽKO KAIgHO KHAIfUATfWAIfONbRAKHANGcNGO NGUcCHO CHANfINGfANGcSO SOcCHO CHOEcYO YINGcDO CHADAcɫPATAKgHO THANbNANGMONTHObPHUTHAOcNO NENcDO DEKcɫTAOgHO THUNGfAHANfONGcNO NUcBO BAIMAIcPO PLAgHO PHUNGcFO FAcPHO PHANcFO FANcPHO SAMPHAOcMO MAcYO YAKcRO RUAgUcLO LINGgUcWO WAENcSO SALAmRUSImSUAcHO HIPcLO CHULAcO ANGcHO NOKHUKcPAIYANNOIcSARA AcMAI HAN-AKATcSARA AAfMjIfIjUEpEffUcPHINTHU#E3FoURRENCY Ɲ BAHToHARACTER SARA EjAEjOjAI MAIMUAN!ALAIcLAKKHANGYAOcMAIYAMOKmTAIKHUm EKbTHOjRIbCHATTAWAcTHANTHAKHATcNIKHAHITcYAMAKKANcFONGMANąƣ([(Ȓuǘ(~uɊ(Ɍuǩ(Ǆ(ǰąɽANGKHANKHUcKHOMUT#E81aLAO iKOuHO SUNG#E84cTAM#E86(PALI GHA(NGO(CO(PALI CHA(SO TAM#E8C(PALI JHA(NYO(PALI ʺgTTAmHAgDDAmH",
  "AgNNA(DO(TOuHO SUNGcTAM(PALI DHA(NO(BO(POuHO SUNG(FO TAM(PHO TAM(FO SUNG(PALI BHA(MO(YO(LO LING#EA5cOOT#EA7(WO(SANSKRIT ˈfSAuO SUNG(HO SUNG(PALI LLA(O(HO TAMĄELLIPSISĄƯ@AcMAI KANcAAgMcIgIcYgYcUgUĄ@PALI ȹĄƯ@MAI KONĄSEMIƯ@LObNYO#EC0ĄƯ@EgIcOcAYgI#EC6ĄKO LA#EC8ĄT[ MAI EKnTHOeInCATAWAĄCANCELLATION =ĄNIGGAHITA#ED0Ąƣ,[,Ȓ(ǘ,~(Ɋ,Ɍ(ǩ,Ǆ,ǰ#EDCĄHO NOzMOĄiKHMU GOgNYO#F00aTIBETAN ɏOM.= GTER YIG MGO TRUNCATED Av-UM RNAM BCAD MA+GTER TSHEG MAnˡYIG MGO MDUN MAnCLOSING YIG MGO SGAB MAeARET YIG MGO PHUR ˈD MAnYIG MGO TSHEG ˈD MAnSBRUL ˈDnBSKUR YIG MGOeKA- SHOG YIG MGOnINTERSYLLABIC TSHEGnDELIMITER TSHEG BɗnˈDnNYIS ˈDnTSHEG ˈDnNYIS TSHEG ˈDnRIN CHEN SPUNGS ˈDeGYA GRAM ˈDnCARET -DZUD RTAGS ME ǬCANnGTER TSHEG.LOGOTYPE @CHAD RTAGSpLHAG RTAGS.ASTROʘ@SGRA GCAN -CHAR RTAGSv-KHYUD PAvSDONG TSHUGS.@RDEL DKAR GCIGhNYIS",
  "hSUMmNAG GCIGlNYISmDKAR RDEL NAG.ƣe[eȒcǘe~cɊeɌcǩeǄeǰeƺ[bȒjǘb~jɊbɌjǩbǄbǰbZERO.= BSDUS RTAGSnʭS BZUNG NYI ZLAnCARET -DZUD RTAGS BZHI MIG CANnʭS BZUNG SGʒRTAGSnCHE MGOnTSA -PHRUnGUG RTAGS GYONqASnANG KHANG GYONqAS.@YAR TSHESnMAR TSHES.iKAgHAcGAgHAcʭcCAgHAcJA#F49cʺcTTAkHAcDDAkHAcNNAcTAgHAcDAgHAcNAcPAgHAcBAgHAcMAcTSAkHAcDZAkHAcWAcZHAgAc-AcYAcRAcLAcˈgSAgAcHAcAcKSSAcFIXED-ʮRAcKKAcRRA#F71.Ư@AAbIjIbUjUbƻR%R!L%LbEjEbOjO.@RJES SU ʭ ROeNAM BCAD.Ư@ƦI&I.@NYI ZLA NAA DAnSNA LDAN.= HALANTAnPALUTA.@LCI RTAGSnYANG RTAGSnLCE TSA CANnMCHU CANnGRU CAN RGYINGSkMED RGYINGSnƭMCHU CAN$UBJOINED @LCE TSA CANlMCHU CANlƭMCHU CANmiKAvHAqGAvHAqʭqCAvHAqJA#F99qʺqTTA!HAqDDA!HAqNNAqTAvHAqDAvHAqNAqPAvHAqBAvHAqMAqTSA!HAqDZA!HAqWAqZHAvAq-AqYAqRAqLAqˈvSAvAqHAqAqKSSAqFIXED-ʮWAĤYAĤRA#FBE.KU RU KHAk BZHI MIG CAN.CANTILLATION @ƠBEA",
  "TvǉBEATvCANG TE-UvSBUB -CHAL.Ɲ DRIL BUcRDO RJEcPADMA GDANcRDO RJE RGYA GRAMcPHUR PAcNʒBUf NYIS -KHYILpGSUM -KHYILpBZHI -KHYIL#FCE$IGN RDEL NAG RDEL DKARpGSUM.= BSKA- SHOG GI MGO RGYANnMʺM YIG GI MGO RGYANnNYIS TSHEGnˡBRDA RNYING YIG MGO MDUN MAnCLOSING BRDA RNYING YIG MGO SGAB MAaǆ-˷SVASTI >aȱ˷SVASTI >aǆ-˷SVASTI @dʓSaȱ˷SVASTI @dʓSaTIBETAN = LEADING MCHAN RTAGSnTRAILING MCHAN RTAGS#1000aMYANMAR iKAgHAcGAgHAcʭcCAgHAcJAgHAcʺgʺcTTAkHAcDDAkHAcNNAcTAgHAcDAgHAcNAcPAgHAcBAgHAcMAcYAcRAcLAcWAcSAcHAcLLAcAcˈN AcIgIcUgUcEcMON EcOcAU.Ư@TALL AAbAAbIjIbUjUbEbAIbMON IIlObE ).@ǚnƮ?nȢcRAMAnASAT.Ȍ@MEDIAL YA+RA+WA+HA.iGREAT SA.ƣe[eȒcǘe~cɊeɌcǩeǄeǰ.@ȝSECTIONnSECTION$YMBOL LOCATɊcCOMPLETEDcAFOREMENTI[DcGENITɊ.iˈgSAcƻRhRlLhL.Ư@ƻR%R!L%L.iMON ʭbJHAbBBAfE.Ȍ@MON MEDIAL NAyMAyLA.iSGAW KAREN ˈ.Ư@SGAW KAREN EU.T[ = SGAW ",
  "KAREN HATHI&KE PHO.iWESTERN PWO KAREN THA;PWA.Ư@WESTERN PWO KAREN EUĥUE.@WESTERN PWO KAREN T[-1Ĥ2Ĥ3Ĥ4Ĥ5.iEASTERN PWO KAREN NNA;YWA;GHWA.Ư@GEBA KAREN IbKAYAH OEqUqEE.iˈN KAfHAjGAjCAjZAjʺjDAjNAjPHAjFAjBAjTHAjHA.Ȍ@ˈN MEDIAL WA.Ư@ˈN AAhEq )hǫY.@ˈN T[-2l3l5l6mCOUNCIL T[-2s3vEMPHATIC T[.iRUMAI PALAUNG FA.@RUMAI PALAUNG T[-5$HAN ƣb[bȒjǘb~jɊbɌjǩbǄbǰ$IGN KHAMTI T[-1q3.Ư@AITON AvI.Ɲ ˈN [jEXCLAMATIONaGEORGIAN wiANhBANhGANhDONhENhVINhZENhTANhINhKANhLAShMANhNARhONhPARhZHARhRAEhSANhTARhUNhPHARhKHARhGHANhQARhSHINhCHINqANhJILhCILqHARhXANhJHANhHAEqEqIEhWEhHARqOE#10C7hYN#10CDhAEN#10D0$iANgBANgGANgDONgENgVINgZENgTANgINgKANgLASgMANgNARgONgPARgZHARgRAEgSANgTARgUNgPHARgKHARgGHANgQARgSHINgCHINkANgJILgCILkHARgXANgJHANgHAEkEkIEgWEgHARkOEgFIgYNgELIFIgƵGANgAIN$PARAGRAPH ȡaȊiGEORGIAN NARaGEORGIAN iAENgHARD >gLABIAL >",
  "aHANGUL CHOSEONG ȻgʩȻg˳gɘgʩɘgˤgˣgɳgʩɳkIOSkSANGʨgIEUNGgʪgʩʪgCHIEUCHgʣgɦgʤgɬg˳-Ȼgʩ˳g˳-ɘpɳgɘ-Ȼgˤ-˳gʩˤgˤ-ɬgˢˤgˣ-ɳgˢˣgɳ-Ȼp˳pɘpʨv-Ȼ!ɘ!ɳlSANGʨlIOS-ʪpʪlHIEUCHpɦpʤgˢɳhʩɳgʨ-Ȼf˳fɘfˤfˣfɳv-ȻfʩʨfIEUNGfʪpHIEUCHfʣfɦfʤfɬgCHITUEUMʨqSANGʨkEONGCHIEUMʨ%SANGʨgPANʨgIEUNG-ȻpɘpˣpɳpʨpPANʨgʩIEUNGgIEUNG-ʪlHIEUCHpɦpʤgYESIEUNGgʪ-IEUNGkHITUEUMʪhʩʪkEONGCHIEUMʪ!ʩʪkHIEUCH-ʣhɬbTUEUMCHIEUCHkEONGCHIEUMCHIEUCHgʤ-ɳgˢʤgʩɬgYEORINɬgȻ-ɘg˳-ʨpʪpɬgɘ-ˤgFILLERzJUNGSEONG FILLERkAmEkYAbEkEOmkYEObkOkWAbEkOEkYOkUkWEObmIkYUkEUkYIkIkA-ObUkYA-OjYOkEO-OjUjEUkYEO-OfUkO-EOjbYEbObUkYO-YApEfEOjOjIkU-AjEbEO-EUbYEbUkYU-AjEOfjYEOpjUjIkEU-UjEUkYI-UkI-AbYAbObUbEUbARAEAkARAEAp-EOlUlIkʩARAEAkA-EUkYA-UmEO-YAkO-YAfE.ONGSEONG ȻkʩȻkȻ-ʨk˳p-ʪlɬkɘkˤp-Ȼlˣlɳlʨlɦlʤlɬkˣkɳp-ʨkʨmSANGʨkIEUNGkʪmHIEUCHkʣkɦkʤkɬkȻ-ˤhʨ-Ȼk˳-ȻlɘlʨlPANʨlɦkɘ-Ȼhˤkˤ-Ȼ-ʨl˳lɘ&-ɬkʩˤkˤ-ˣ-Ȼ&ʨlɳ-ʨ&ɬlˢɳ",
  "lʩʨlPANʨlʣlYEORINɬkˣ-ȻlˤlɳlʨhSANGʨlPANʨlCHIEUCHlɬkˢˣkɳ-ˤlʤlɬkˢɳkʨ-ȻpɘpˤpɳkPANʨkIEUNG-ȻlʩȻkʩIEUNGkIEUNG-ʣkYESIEUNGq-ʨvPANʨkʤ-ɳkˢʤkɬ-˳lˤlˣlɳkYEORINɬkȻ-˳hɳhCHIEUCHhʣhɬkʩ˳aETHIOPIC ɏHAbUbIbAAbEEjbOjAmLAbUbIbAAbEEjbObWAmHHAjUjIjAAjEEfjOjWAmMAbUbIbAAbEEjbObWAmSZAjUjIjAAjEEfjOjWAmRAbUbIbAAbEEjbObWAmSAbUbIbAAbEEjbObWAbHAjUjIjAAjEEfjOjWAmQAbUbIbAAbEEjbOjAbWA#124AjIjAAjEEf#1250bHAjUjIjAAjEEfjO#1258jWA#125AfIfAAfEEp#1260mBAbUbIbAAbEEjbObWAmVAbUbIbAAbEEjbObWAmTAbUbIbAAbEEjbObWAmCAbUbIbAAbEEjbObWAmXAbUbIbAAbEEjbOjAbWA#128AjIjAAjEEf#1290mNAbUbIbAAbEEjbObWAbYAjUjIjAAjEEfjOjWAmȓAvUvIvAAvEE!vOvWAmKAbUbIbAAbEEjbOjAbWA#12B2jIjAAjEEf#12B8bXAjUjIjAAjEEfjO#12C0jWA#12C2fIfAAfEEp#12C8mWAbUbIbAAbEEjbOjAmPHARYNGEAL A&U&I&AA&EE+&O#12D8mZAbUbIbAAbEEjbObWAbHAjUjIjAAjEEfjOjWAmYAbUbIbAAbEEjbOjAmDAbUbIbAAbEEjbObWAbDAjUjI",
  "jAAjEEfjOjWAmJAbUbIbAAbEEjbObWAmGAbUbIbAAbEEjbOjAbWA#1312jIjAAjEEf#1318bGAjUjIjAAjEEfjOjWAAmTHAjUjIjAAjEEfjOjWAmCHAjUjIjAAjEEfjOjWAmPHAjUjIjAAjEEfjOjWAmTSAjUjIjAAjEEfjOjWAbZAjUjIjAAjEEfjOfAmFAbUbIbAAbEEjbObWAmPAbUbIbAAbEEjbObWAmRYAmMYAmFYA#135D$ǋGEMINATION xƯʢ=bƯʢ=bGEMINATION =$ɣ=$WORDʻ$ǈ$ȿ$SEMIʧ$ʧ$PREȏ ʧ$Ȉ=$PARAGRAPH ȡ$ʆ[cȒgǘc~gɊcɌgǩcǄcǰ$ǇˬkɷkHIRTYgFORTYkIFTYgɌTYkǩTYgǄYgǰTYgƫgˬ ƞ#1380$ɏSEBATBEIT MWAmMWIjEEfmSEBATBEIT BWAmBWIjEEfmSEBATBEIT FWAmFWIjEEfmSEBATBEIT PWAmPWIjEEf$TONAL = YIZETjDERETjRIKRIKjǽRIKRIKjDIFATjKENATjCHIRETjHIDETjDERET-HIDETjKURT#13A0aCHEROKEE iAgEgIgOgUgVgGAgKAgGEkIkOkUkVgHAkEkIkOkUkVgLAkEkIkOkUkVgMAkEkIkOkUgNAgHNAgNAHkEkIkOkUkVgQUAmEmImOmUmVgSAkkEkIkOkUkVgDAgTAgDEgTEgDIgTIgDOkUkVkLAgTLAmEmImOmUmVkSAmEmImOmUmVgWAkEkIkOkUkVgYAkEkIkOkUkVgMV#13F8$riYElIlOlUlVpMV#1400āANADI",
  "AN SYLLABICS HYPHENbEbAAIbIjIbOjObY-ɴOObʯEE!IbAjAbWEfST-ɴWEjIjEST-ɴWIjIIjEST-ɴWIIjOjEST-ɴWOjOOjEST-ɴWOOb˥WOObWAjEST-ɴWAjAAjEST-ɴWAAb˥WAAbAIbY-ɴWbȓSTOPbǫǠqȐqȩƺʏqʐƺʏq:ƺʏ!NGq^ǠtǽƋƜSqƖʓqǽƘƜqPLUSqǂTACKbENbINbONbANbPEjAAIjIfIjOfObY-ɴPOObʯHEE%IbPAfAjWEbƟPWEbPWIbƟPWIbPWIIbƟPWIIbPWObƟPWObPWOObƟPWOObPWAbƟPWAbPWAAbƟPWAAbY-ɴPWAAbPbƟPbʯHbTEjAAIjIfIjOfObY-ɴTOObʯDEE%IbTAfAjWEbƟTWEbTWIbƟTWIbTWIIbƟTWIIbȒbƟȒbȒObƟȒObTWAbƟTWAbTWAAbƟTWAAb˥TWAAbTjTEfIfOfAbKEjAAIjIfIjOfObY-ɴKOObKAfAjWEbƟKWEbKWIbƟKWIbKWIIbƟKWIIbKWObƟKWObKWOObƟKWOObKWAbƟKWAbKWAAbƟKWAAb˥KWAAbKjWbSOUTH-SLAVEY KEH;IH;OH;AHbCEjAAIjIfIjOfObY-ɴCOObCAfAjWEbƟCWEbCWIbƟCWIbCWIIbƟCWIIbCWObƟCWObCWOObƟCWOObCWAbƟCWAbCWAAbƟCWAAb˥CWAAbCbSAYISI THbMEjAAIjIfIjOfObY-ɴMOObMAfAjWEbƟMWEbMWIbƟMWIbMWIIbƟMWIIbMWObƟMWObMWOObƟMWOObMWAbƟMWAbMWAAbƟMWAAb˥MWAAbMbƟMbMHbATHAPASCA",
  "N MbSAYISI MbNEjAAIjIfIjOfObY-ɴNOObNAfAjWEbƟNWEbNWAbƟNWAbNWAAbƟNWAAb˥NWAAjbʯNGbNHbLEjAAIjIfIjOfObY-ɴLOObLAfAjWEbƟLWEbLWIbƟLWIbLWIIbƟLWIIbLWObƟLWObLWOObƟLWOObLWAbƟLWAbLWAAbƟLWAAbLbƟLbMEDIAL LbSEjAAIjIfIjOfObY-ɴSOObSAfAjWEbƟSWEbSWIbƟSWIbSWIIbƟSWIIbSWObƟSWObSWOObƟSWOObSWAbƟSWAbSWAAbƟSWAAb˥SWAAbSbATHAPASCAN SbSWbȲFOOT SbMOOSE-ɴSKb˥SKW%-W%PWA%TWA%KWA%CWAbSHEfIpIfOpOfApAfWEbƟSHWEbSHWIbƟSHWIbSHWIIbƟSHWIIbSHWObƟSHWObSHWOObƟSHWOObSHWAbƟSHWAbSHWAAbƟSHWAAbSHbYEjAAIjIfIjOfOj-ɴYOOjAfAjWEbƟYWEbYWIbƟYWIbYWIIbƟYWIIbYWObƟYWObYWOObƟYWOObYWAbƟYWAbYWAAbƟYWAAb˥YWAAbYbBIBLE-ɴYbƟYbSAYISI YIbREj-ɴREbƟLEbRAAIjIfIjOfObƟLObRAfAbƟLAbRWAAbƟRWAAbRbƟRbMEDIAL RbFEjAAIjIfIjOfOjAfAjWAAbƟFWAAbFbTHEbN-ɴTHEbTHIbN-ɴTHIbTHIIbN-ɴTHIIbTHOpOfApAfWAAbƟTHWAAbTHjTHEpIpOpApjYEfIfOfAbNUNAVIK HE%I&I%O&O%A&A%hUT HbHKbQAAIjIfIjOfOjAfAjbTL",
  "HEpIpOpAbƟRE+I+O+AbʭAIfIpIfOpOfApAfjNGbSAYISI SHE%I%O%AbWOODS-ɴTHEtItOtAtbLHIpIfOpOfApAfbTH-ɴTHE&I+I&O+O&A+A&bAIVILIK BbȲFOOT E&I&O&A&WE+I+O+A&NE+I+O+A&KE+I+O+AbSAYISI HE!I!O!AbʯGHU&O&E+E&I&A!RU%O%E&E%I%A!WU%O%E&E%I%A!HWU&O&E+E&I&A!THU&O&E+E&I&A%TU&O&E+E&I&A!PU%O%E&E%I%A%!GU%O%E&E%I%A!KHU&O&E+E&I&A%KU&O&E+E&I&A&!NU%O%E&E%I%A!MU%O%E&E%I%A!YU%O%E&E%I%A!JUbSAYISI JUbʯJO%E&E%IbSAYISI JIbʯJA%JU&O&E+E&I&A!LU%O%E&E%I%A!DLU&O&E+E&I&A!LHU&O&E+E&I&A!TLHU+O+EsE+I+A&U&O&E+E&I&A!ZU%O%E&E%I%A%!ˡZ!DZU&O&E+E&I&A!SU%O%E&E%I%A%HU&O&E+E&I&A&!TSU&O&E+E&I&A!CHU&O&E+E&I&A!TTSU+O+EsE+I+AjHI >bǈbQAIbʭIjNGIlIpOlOpAlAbWOODS-ɴTHWEE;IyI;OyO;AyA+ǫTHbȲFOOT WaOGHAM ʻ =oiBEITHnLUISnFEARNnSAILnNIONnUATHnDAIRnTINNEnCOLLeEIRTnMUINnGORTnNGEADALnSTRAIFnRUISnAILMnONNnURnEADHADHnIODHADHnEABHADHnORnUILLEANNnIFINnEAMHANCHOLLnPEIT",
  "HoFEATHER =oƦFEATHER =#16A0aRUNIC iFEHU FEOH FE FnVnURUZ UR UnYRenWnTHURISAZ THURS THORNnETHnANSUZ AnOS OnAC AeESCn˸OSS OnʵOSS OnOeEeNnRAIDO RAD REID RnKAUNAnCENnKAUN KnGnENGnGEBO GYFU GeARnWUNJO WYNN WnHAGLAZ HcEGL Hn˸HAGALL HnʵHAGALL HnNAUDIZ NYD NAUD NnʵNAUD NnʓTED-NnISAZ IS ISS InEnJERAN JnGERn˸AR AEnʵAR AnIWAZ EOHnPERTHO PEORTH PnALGIZ EOLHXnSOWILO SeIGEL ˸SOL SeHORT-TWIG-SOL SnCnZnTIWAZ TIR TYR TnʵTYR TnDnBERKANAN BEORC BJARKAN BnʵBJARKAN BnʓTED-PnOPEN-PnEHWAZ EH EnMANNAZ MAN Mn˸MADR MnʵMADR MnLAUKAZ LAGU LOGR LnʓTED-LnINGWAZgnDAGAZ DAEG DnOTHALAN ETHEL OnEARnIORnCWEORTHeALCeEALCnSTANn˸YRnʵYRnICELANDIC-YRnQnXoȜ Ȕo˦ Ȕoɠ ȔoARLAUG ƝoTVIMADUR ƝoBELGTHʒƝoiKnSHnOOnFRANKS CASKET OS!IS!EH!AC%ESC#1700aTAGALOG iAcIcUcKAcGAcʭcTAcDAcNAcPAcBAcMAcYAcRAcLAcWAcSAcHA.Ư@IbU.@ȹnPAMUDPOD#171F.iɒRAaHANUN",
  "OO iAcIcUcKAcGAcʭcTAcDAcNAcPAcBAcMAcYAcRAcLAcWAcSAcHA.Ư@IbU.@PAMUDPODaPHILIPPINE Ȝ Ȕ(^Ȕ#1740aBUHID iAnInUnKAnGAnʭnTAnDAnNAnPAnBAnMAnYAnRAnLAnWAnSAnHAoƯ@IkU#1760aTAGBANWA iAgIgUgKAgGAgʭgTAgDAgNAgPAgBAgMAgYA#176EgLAgWAgSA#1772$Ư@IjU#1780aKHMER iKAeHAeOeHOnNGOnCAeHAeOeHOnNYOnDAnTTHAnDOnTTHOnNNOnTAeHAeOeHOnNOnBAnPHAeOeHOnMOnYOnROnLOnVOnˈeSOeAnHAnLAnQAoʥƯQAQvAqIvIqUvKvU!VhRYvYhLYvYhQEqAIqOO TYPE [;ȒqAUoƯINHERENT AQpAu@AAkImIkYmYkUmUmAkOEkYAkIEkEkAEmIkOOkAUo@NIKAHIT(REAHMUK(YUUKALEAPINTU(MUUSIKATOAN(TRIISAP(BANTOC(ROBAT(TOANDAKHIAT(KAKABAT(AHSDA(SAMYOK SANʺ(VIRIAM(COENG(BATHAMASAT(KHAN(ɢIYOOSAN(CAMNUC PII KUUH(LEK TOO(BEYYAL(PHNAEK MUAN(KOOMUUToCURRENCY Ɲ RIELo@AVAKRAHASAʺuTTHACAN#17E0oƣu[uȒnǘu~nɊuɌnǩuǄuǰ#17F0oƝ LEK ATTAK SONlMUOYlPIIlBEIhUONlPRAM!-MUOY%PII%BEI&UON#1800aMONGOLIAN BIRGA,ELLIPSIS,",
  "ȿ,ǈ,ʧ,~ ʓS,TODO SOFT HYPHEN,SIBE ɏBOUNDARY =ER,MANCHU ȿkǈ,NIRUGU,FREE ȬTION SELECTʒ[yȒģǘ,Ưȡ,FREE ȬTION SELECTʒ~,ƣg[gȒkǘg~kɊgɌkǩgǄgǰ#1820,iAkEkIkOkUkOEkUEkEEkNAkANGkBAkPAkQAkGAkMAkLAkSAmHAkTAkDAkCHAkJAkYAkRAkWAkFAkKAmHAkTSAkZAkHAAkZRAkLHAkZHIkCHIkTODO ǬƯ>pEpIpOpUpOEpUEpANGpBApPApQApGApMApTApDApCHApJApTSApYApWApKApGAApHAApJIApNIApDZAkSIBE EpIlYpUElpANGpKApGApHApPApˈpTApDApJApFApGAApHAApTSApZApRAApCHApZHAkMANCHU IhKAhRAhFAhZHAkCHA dǐʓS#1880kALI GALI ǚ [vȢ [vDAMARUvUBADAMAvƭUBADAMAvBALUDAvƽBALUDAvAvIvKAvʭvCAvTTA%HAvDDAvNNAvTAvDAvPA!HAvSSAvZHA!AvAHkTODO ALI GALI TAsZHAkMANCHU ALI GALI GHA;ʭ;CA;JHA;TTA;DDHA;TA;DHA;SSA;CYA;ZHAyAkALI GALI ƺUsYAkMANCHU ALI GALI BHAkALI GALI DAGALGAkMANCHU ALI GALI LHA#18B0aCANADIAN SYLLABICS OYbAYjAYbWAYbPOYjAYjWOYbTAYbKAYjWAYbMAYbNOYjAYbLAYbSOYjAYjHOYfAYfWOYbYOYjA",
  "YbRAYbNWIbOJIBWAY NWIbNWIIbOJIBWAY NWIIbNWObOJIBWAY NWObNWOObOJIBWAY NWOObRWEEfIpIfOpOfAbOJIBWAY P!T!K!C!M!N!S%HbEASTERN WbWESTERN WbǫrʏqɖʓbR-ɴRWEbƟLOO+AAbTHWEpAjTHWEpOOpAAjLHWEpOObSAYISI SHWE%OOvHOObʯGWU!DENE GEE!GAA%WAbSAYISI JUUbʯJWAbBEAVER DENE LsRbʯDENTAL S#1900aLIMBU VOWEL-ʯLETTERoiKAeHAnGAeHAnʭnCAeHAnJAeHAnYANnTAeHAnDAeHAnNAnPAeHAnBAeHAnMAnYAnRAnLAnWAnˈeSAeAnHAnGYANnTRA#1920oƯ@AkIkUkEEkAIkOOkAUkEkOoSUBJOINED iYAlRAlWA#1930zMALL iKAbʭbǚbTAbNAbPAbMAbRAbLAzIGN MUKPHRENG(KEMPHRENG(SA-I#1940(LOO#1944oǧ=oȈ=oƣu[uȒnǘu~nɊuɌnǩuǄuǰaTAI LE iKAeXAeʭeTSAeSAeYAeTAcHAeLAePAcHAeMAeFAeVAeHAeQAeKHAeTˈeNAeAeIeEEcHeUeOOceUEeEeAUEcI#1970eT[-2b3b4b5b6#1980aNEW TAI LUE iǡQAbǾQAbǡKAhXAhʭbǾKAlXAlʭbǡTSAhSAhYAbǾTSAlSAlYAbǡTAqHAhNAbǾTAhHAlNAbǡPAqHAhMAbǾPAhHAlMAbǡFAhVAhLAbǾFAlVAlLAbǡHAhDAhBAbǾHAlDAlBAbǡKVAhXVAbǾ",
  "KVAlXVAbǡSUAbǾSUA#19B0uƯ@ƯSHORˬERlAAlIIlUhUlElAElOhAlUElAYhAYlUYlOYhAYlUEYlIYuiǫVqNGvqMqKqDqBuT[ =-1p2#19D0uƣm[mȒbǘm~bɊmɌbǩmǄmǰuTHAM ʆ[#19DEu@LAEjVaKHMER Ɲ PATHAMASATnMUOY KOETnPII KOETnBEI KOETeUON KOETnPRAM KOETk-MUOY KOETmPII KOETmBEI KOETbUON KOETnDAP KOETg-MUOY KOETkPII KOETkBEI KOETmUON KOETkPRAM KOETnTUTEYASATnMUOY ROCnPII ROCnBEI ROCeUON ROCnPRAM ROCk-MUOY ROCmPII ROCmBEI ROCbUON ROCnDAP ROCg-MUOY ROCkPII ROCkBEI ROCmUON ROCkPRAM ROCaBUGINESE iKAgGAgʭmKAgPAgBAgMAkPAgTAgDAgNAkRAgCAgJAgʺmCAgYAgRAgLAgVAgSAgAgHA$Ư@IjUjEjOjAE#1A1E$PALLAWA$ʬǭSECTIONaTAI THAM iǡKApHApXAgǾKAfXAfHAgʭgǡCApHAgǾCAjSAjCHAgʺgRATAgǡRATHAgDAgǾRATHAgRANAgǡTApHAgǾTAfHAgNAgBAgǡPApHAfFAgǾPAjFAjPHAgMAgǾYAgǡYAgRAkUEgLAkUEgWAgǡˈpSApAfHAgLLAgAgǾHAgIkIgUkUgEEgOOgLAEgGREAT SA$Ȍ@MEDIAL RAsLAhLA TANG LAI$@MAI KANG LAI$Ȍ@ǫʭhǾP",
  "AhǡRATHA ʒǾPAhMAhBAhSA#1A60$@SAKOT$Ư@AjMAI SATjAAjTALL AAjIfIjUEfUEffUjOfA ?fYjEjAEjOOjAIjTHAM AIjOA )$@MAI KANGeT[-1b2eKHUEN T[-3q4q5eRA HAAMeMAI SAMeKHUEN-LUE KARAN#1A7F$ǋɜʓ$HORA ƣj[jȒfǘj~fɊjɌfǩjǄjǰ#1A90$THAM ƣj[jȒfǘj~fɊjɌfǩjǄjǰ#1AA0$@WIANGbWAAKeSAWANeKEOWeHOYeDOKMAIeƦˀRANAeMAI YAMOKeKAANmKUUeSATKAANfKUUeHANGeCAANG#1AB0aǋȥD ƧȰ(IAERESIS-ʏ,INFINITY,ƚ*,ǹʓ,X-X ?,WIGGLY ȍ?,Ǵ= ?,^Ǵ= ?,ǉCENTRALIZATION Ɯ ?,STRONG CENTRALIZATION Ɯ ?,PARENTHESES ),^PARENTHESES ),PARENTHESES ?pɍ,ǱriW ?&ƵW ?(EFT ǒ ) ȶ,:ǒ ) ǆ,<ǒ ? ȶ,:ǒ ? ǆ,ǃƥS ),Ǉ@),ƭ^ARCH ),Ƴ@),^Ƴ@)!?,ǹǠ Ȱ,ǱriɓGĥRĥT#1B00aBAʄSE @ULU RICEMmCANDRAeCECEKeSURANGeBISAH$iAKARAf TEDUNGgIKARAf TEDUNGgUKARAf TEDUNGgRA REPAl TEDUNGgLA LEʭh TEDUNGgEKARAgAIKARAgOKARAf TEDUNGgKAm MAHAPRANAgGAm GORAgʭgCAm LACAgJAm JERAgʺgTA LATIKbMURDA MAHAPRANAgDA MURDA ALPAPRANA",
  "qMAHAPRANAgNA RAMBATgTAm TAWAgDAm MADUgNAgPAm KAPALgBAm KEMBANGgMAgYAgRAgLAgWAgSA SAGAfPAmgHA$@REREKAN$Ư@TEDUNGjULUl SARIjSUKUh ILUTjRA REPA! TEDUNGjLA LEʭ% TEDUNGjTALINGv REPA!TEDUNG!REPA TEDUNGjPEPETq TEDUNG$ADEG ADEG$iKAF SASAKkHOT SASAKgTZIR SASAKgEF SASAKgVE SASAKgZAL SASAKgASYURA SASAKkRCHAIC Jʺ#1B50$ƣc[cȒgǘc~gɊcɌgǩcǄcǰ$PANTI(MADA$WINDU$CARIK PAMUNGKAHcSIKIcPAREREN$PAMENENG$ʗƝ DONGqENGqUNGqANG% SURANGqINGqAENGqEUNGqAINGvNG GEDEhǋTEGEHyENDEPyKEMPULĦLIyJEGOGANyKEMPUL dJEGOGANĦLI dJEGOGANyBENDEyGONGhǆ-HxǴDUGĩAGģȖTUKīAKhȱHxǴPANGĨUNGyȖPLAKīUKyǴPING$PANTI LANTANG(MADA LANTANG#1B80aSUNDANESE @PANYECEKmGLAYARbWISAD,iAkIkUkAEkOkEmUkKAkQAkGAkʭkCAkJAkZAkʺkTAkDAkNAkPAkFAkVAkBAkMAkYAkRAkLAkWAkSAkXAkHA,Ȍ@PAMINGKAL!ʺKRA&IKU,Ư@PANGHULUhYUKUhAELAENGhOLONGlMEPETlNEULEUNG,@PAMAAEHcȹ,Ȍ@PASAʭN MAyWA,iKHA",
  "kSYA,ƣg[gȒkǘg~kɊgɌkǩgǄgǰ,ɤ,iREUkLEUkBHAkǫKlMaBATAK iAnɸAnHAnɸHAnMANDAILING HAnBAnKARO BAnPAnɸPAnNAnMANDAILING NAnWAnɸWAnPAKPAK WAnGAnɸGAnJAnDAnRAnɸRAnMAnɸMAeOUTHERN TAnNORTHERN TAnSAeIMALUNGUN SAnMANDAILING SAnYAnɸYAnʭnLAnɸLAnʺnCAnNDAnMBAnInUo@TOMPIoƯ@EkPAKPAK EkEEkIkKARO IkOkKARO OkUm ʅɸSAoȌ@NGfHoPANGOLAT$ONGONAN#1BFCoƝ BINDU NA METEKbPINARBORASbJUDULbPANGOLATaLEPCHA iKAcLAcHAeGAcLAeʭeCAcHAeJAeʺeTAcHAeDAeNAePAcLAcHAeFAcLAeBAcLAeMAcLAeTSAgHAeDZAeYAeRAeLAeHAcLAeVAeSAcHAeWAeAzSUBJOINED iYAhRAzƯ@AAmImObOmUbUmEzȌ@KpMpLpNpPpRpTpNYIN-DOpKANGz@RANuʴ#1C3BzǸTA-ROLbNYET THYOOM TA-ROLbCER-WAbTSǶ CER-WAqzƣn[nȒeǘn~eɊnɌeǩnǄnǰ#1C4DziTTAgHAeDDAaOL CHIKI ƣc[cȒgǘc~gɊcɌgǩcǄcǰ$iLAgATkGkNGkLgLAAgAAKmJmMmWgLIgISkHkNYkRgLUgUCkDkNNkYgLEgEPkDDkNkRRgLOgOTTkBkVkH$MU TTUDDAG$GAAHLAA TTUDDAAG$MU-GAAHLAA TTUDDAAG$RELAA",
  "$PHAARKAA$AHAD$ǸMUCAADf^MUCAADaʡriˠVEpLONG-LEGGED DEpN_OpWIDE ESpTALL TElǘ-LEGGED TElALL HARD >!YATpUNBLENDED UK#1C90aGEORGIAN MTAVRULI wiAN;BAN;GAN;DON;EN;VIN;ZEN;TAN;IN;KAN;LAS;MAN;NAR;ON;PAR;ZHAR;RAE;SAN;TAR;UN;PHAR;KHAR;GHAN;QAR;SHIN;CHINyAN;JIL;CILyHAR;XAN;JHAN;HAEyEyIE;WE;HARyOE;FI;YN;ELIFI;ƵGAN;AIN#1CBDyEN;HARD >;LABIAL >aSUNDANESE ǸBINDU SURYA%PANGLONG&URNAMA%CAKRA%LEU SATAʭ%KA SATAʭ%DA SATAʭ%BA SATAʭ#1CD0aVEDIC T[ KARˈNA(ˈRA(PRENKHAo@NIHSHVASA(YAJURVEDIC MIDȍSVARITAoT[ YAJURVEDIC AGGRAVATED ʥSVARITApʥSVARITApKATHAKA ʥSVARITA(˗?(YAJURVEDIC KATHAKA ʥSVARITA SCHROEDER(^SVARITA(ǹSVARITA(KATHAKA ANUDATTA(Ʈ?(ǐǗ?uǘ Ǘ?(RIGVEDIC KASHMIRI ʥSVARITA(ATHARVAVEDIC ʥSVARITAo@Ȣ SVARITAbUDATTA(ƦȢ UDATTA(Ȣ ANUDATTA(ƦȢ ANUDATTA(Ȣ UDATTA dȵbANUDATTA dȵ(ǚ ANTARGOMUKHAjBAHIRGOMUKHAjVAMAGOMUKHAs dȵ(TIRY",
  "AK(HEXIʮǬǚ(Ǭǚ(RTHANG Ǭǚ(ǚ UBHAYAɫMUKHAuRDHAȢ(ˀARDHAȢoT[ ˗)o@JIHVAMULIYA(UPADHMANIYA(ATIKRAMAoT[ Ȇ)(^Ȇ)o@^ǚ ANTARGOMUKHA#1D00aǱirwA%EoriƵAEoirwɢRED B!C!D!ETH%oriƵǴEvIoirwJ!K!L dƜ!M!ƦN!O%PEN OoriˌO&PEN O& dƜbƵOEoirwOUoriʐƺObȩƺOoirwP!ƦR!ƵR%!UoriˌU%DIAERESIZED U%ƵMoirwV!W!Z!EZHnVOICED LARYNGEAL SPIRANTnAINaɛirwʾ!LAMDA!PI!RHO!PSIaʡirwELaȊiwAqEhBqARRED BhDhEhƦEhGhHhIhJhKhLhMhNhƦNhOqUhPhRhThUhWgrApƵApʽpƵAEpBpDpEpSCHWApǴEpƵǴEpGpƵIpKpMpENGpOlPEN OpʐƺOpȩƺOpPpTpUpˌUpƵMpVpAINpBETApɛʾpDELTApɛPHIpCHIaǱSUBɉriI&R&U&VaɛSUBɉriBETA&ʾ&RHO&PHI&CHIaǱriUEbB dƖȅbD dƖȅbF dƖȅbM dƖȅbN dƖȅbP dƖȅbR dƖȅvFISHǶ xƖȅbS dƖȅbT dƖȅbZ dƖȅbƵGaȊiʡENaǱriɓGbTH dSTRIKETHROUGHuwiI dƜuiIOTA dƜbP dƜuwiU dƜuiʕdƜbB dǏbD dǏbF dǏbG dǏbK dǏbL dǏbM dǏbN dǏbP dǏbR dǏbS dǏbESH dǏbV dǏbX dǏbZ dǏbA dưjLPHA dưbD dǶ xȵbE dưbǴE dưbƦǴE dưbSCHWA dưb",
  "I dưbǴO dưbESH dưbU dưbEZH dưaȊirƵʽpCl dCURLpETHpƦǴEpFpʓLESS J dƜpɉGpƵHpI dƜlOTApwIs dƜpJ dɠED-ȵpL dư&ǏpwLpM dǶpƵM dǬLEGpN d<Ƕ&ưpwNpɢRED OpPHIpS dǶpESHpT dǏpU ɢlPSILONpwUpV dǶpƵVpZl dư&CURLpEZHpTHETAaǋȗȐ ȰkǠ Ȱ,SNAKE ?(USPENSION =,Ǫ-Ǡ,Ȑ-Ǫ,Ǫ-Ȑ,Ǡ-Ǫ,Ȑ-Ǡ-Ȑ,Ǡ-Ȑ-Ǡ,ǱriR ?,ɀ-Ǫ,Ǫ-ɀ,^Ƨ),OG[K ),ZIGZAG ?,IS ?,UR )(S ),ǱriFLATˬED ǴA )&AE+O+V&C Ʉ&ɓD&ETH&GgirwGgriK&LgirwLĥMgriNgirwNĥRgriR ROTUNDA&S&ǬS&Z&ʽ&B+ETA&SCHWA&F&L d^Ɩȅ&O dǉCENTRALIZATION Ɯ&P&ESH&U dǉCENTRALIZATION Ɯ&W&A dƶ&O dƶ&U dƶ,ɁTACK ),KAVYKA ) ǆlȶ,Ʈ) ȶ,WIDE ƭBRIDGE ?,Ʈ? ȶ(ELETION =(OUBLE ƭɀ ?,ʊƴ ?,<*Ȯ ),:*Ȯ xǂ*Ȯ ?aǱwiA dȆ?oriA dȆ?owiB dƮ)oriB dƮ)owiB dƮ?oriB dƮ?owiB dȍ?oriB dȍ?owiC dɄ xǠoriC dɄ xǠowiD dƮ)oriD dƮ)owiD dƮ?oriD dƮ?owiD dȍ?oriD dȍ?owiD dɄoriD dɄowiD dƧ?oriD dƧ?owiE dǪ xȐoriE dǪ xȐowiE dǪ xǠoriE dǪ xǠowiE dƧ?oriE dƧ?owiE dȅ ?oriE ",
  "dȅ ?owiE dɄ xɀoriE dɄ xɀowiF dƮ)oriF dƮ)owiG dǪoriG dǪowiH dƮ)oriH dƮ)owiH dƮ?oriH dƮ?owiH dƶoriH dƶowiH dɄoriH dɄowiH dɀ ?oriH dɀ ?owiI dȅ ?oriI dȅ ?owiI dƶ xǠoriI dƶ xǠowiK dǠoriK dǠowiK dƮ?oriK dƮ?owiK dȍ?oriK dȍ?owiL dƮ?oriL dƮ?owiL dƮ? xǪoriL dƮ? xǪowiL dȍ?oriL dȍ?owiL dƧ?oriL dƧ?owiM dǠoriM dǠowiM dƮ)oriM dƮ)owiM dƮ?oriM dƮ?owiN dƮ)oriN dƮ)owiN dƮ?oriN dƮ?owiN dȍ?oriN dȍ?owiN dƧ?oriN dƧ?owiO dȅ xǠoriO dȅ xǠowiO dȅ xƶoriO dȅ xƶowiO dǪ xȐoriO dǪ xȐowiO dǪ xǠoriO dǪ xǠowiP dǠoriP dǠowiP dƮ)oriP dƮ)owiR dƮ)oriR dƮ)owiR dƮ?oriR dƮ?owiR dƮ? xǪoriR dƮ? xǪowiR dȍ?oriR dȍ?owiS dƮ)oriS dƮ)owiS dƮ?oriS dƮ?owiS dǠ xƮ)oriS dǠ xƮ)owiS dȺ xƮ)oriS dȺ xƮ)owiS dƮ? xƮ)oriS dƮ? xƮ)owiT dƮ)oriT dƮ)owiT dƮ?oriT dƮ?owiT dȍ?oriT dȍ?owiT dƧ?oriT dƧ?owiU dƶ ?oriU dƶ ?owiU dȅ ?oriU dȅ ?owiU dƧ?oriU dƧ?owiU dȅ ",
  "xǠoriU dȅ xǠowiU dǪ xƶoriU dǪ xƶowiV dȅoriV dȅowiV dƮ?oriV dƮ?owiW dȐoriW dȐowiW dǠoriW dǠowiW dƶoriW dƶowiW dƮ)oriW dƮ)owiW dƮ?oriW dƮ?owiX dƮ)oriX dƮ)owiX dƶoriX dƶowiY dƮ)oriY dƮ)owiZ dǷoriZ dǷowiZ dƮ?oriZ dƮ?owiZ dȍ?oriZ dȍ?bH dȍ?bT dƶbW dȆ)bY dȆ)bA d:ƺʏbǬS dƮ)tIAGONAL ƜsǡƜowiˈRP SoriDELTAowiA dƮ?oriA dƮ?owiA dǶ )oriA dǶ )owiA dƧxǠoriA dƧxǠowiA dƧxȐoriA dƧxȐowiA dƧxǶ )oriA dƧxǶ )owiA dƧxȅoriA dƧxȅowiA dƧxƮ?oriA dƧxƮ?owiA dɀ xǠoriA dɀ xǠowiA dɀ xȐoriA dɀ xȐowiA dɀ xǶ )oriA dɀ xǶ )owiA dɀ xȅoriA dɀ xȅowiA dɀ xƮ?oriA dɀ xƮ?owiE dƮ?oriE dƮ?owiE dǶ )oriE dǶ )owiE dȅoriE dȅowiE dƧxǠoriE dƧxǠowiE dƧxȐoriE dƧxȐowiE dƧxǶ )oriE dƧxǶ )owiE dƧxȅoriE dƧxȅowiE dƧxƮ?oriE dƧxƮ?owiI dǶ )oriI dǶ )owiI dƮ?oriI dƮ?owiO dƮ?oriO dƮ?owiO dǶ )oriO dǶ )owiO dƧxǠoriO dƧxǠowiO dƧxȐoriO dƧxȐowiO dƧxǶ )oriO dƧxǶ )",
  "owiO dƧxȅoriO dƧxȅowiO dƧxƮ?oriO dƧxƮ?owiO dˁxǠoriO dˁxǠowiO dˁxȐoriO dˁxȐowiO dˁxǶ )oriO dˁxǶ )owiO dˁxȅoriO dˁxȅowiO dˁxƮ?oriO dˁxƮ?owiU dƮ?oriU dƮ?owiU dǶ )oriU dǶ )owiU dˁxǠoriU dˁxǠowiU dˁxȐoriU dˁxȐowiU dˁxǶ )oriU dˁxǶ )owiU dˁxȅoriU dˁxȅowiU dˁxƮ?oriU dˁxƮ?owiY dȐoriY dȐowiY dƮ?oriY dƮ?owiY dǶ )oriY dǶ )owiY dȅoriY dȅowiMIDDLE-WELSH LLoriMIDDLE-WELSH LLowiMIDDLE-WELSH VoriMIDDLE-WELSH VowiY dLOOPoriY dLOOPaɛriʽ dPSILI+DASIA+ǟxȬ+ǞxȬ+ǟxɡ+Ǟxɡ+ǟxǓ+ǞxǓowiʽ dPSILItDASIAtǟxȬtǞxȬtǟxɡtǞxɡtǟxǓtǞxǓoriɿdPSILItDASIAtǟxȬtǞxȬtǟxɡtǞxɡ#1F18owiɿdPSILIyDASIAyǟxȬyǞxȬyǟxɡyǞxɡ#1F20oriETA dPSILI%DASIA%ǟxȬ%ǞxȬ%ǟxɡ%Ǟxɡ%ǟxǓ%ǞxǓowiETA dPSILI+DASIA+ǟxȬ+ǞxȬ+ǟxɡ+Ǟxɡ+ǟxǓ+ǞxǓoriIOTA dPSILI&DASIA&ǟxȬ&ǞxȬ&ǟxɡ&Ǟxɡ&ǟxǓ&ǞxǓowiIOTA dPSILIsDASIAsǟxȬsǞxȬsǟxɡsǞxɡsǟxǓsǞxǓori˔ dPSILItDASIAtǟxȬtǞxȬtǟxɡtǞxɡ#1F48owi˔ dPSILIyDAS",
  "IAyǟxȬyǞxȬyǟxɡyǞxɡ#1F50oriʕdPSILItDASIAtǟxȬtǞxȬtǟxɡtǞxɡtǟxǓtǞxǓ#1F59owiʕdDASIA#1F5Bħ xȬ#1F5DĬɡ#1F5FĬǓoriʉ dPSILI+DASIA+ǟxȬ+ǞxȬ+ǟxɡ+Ǟxɡ+ǟxǓ+ǞxǓowiʉ dPSILItDASIAtǟxȬtǞxȬtǟxɡtǞxɡtǟxǓtǞxǓoriʽ dȬ+ɡbɿdȬtɡjTA dȬ%ɡbIOTA dȬ&ɡb˔ dȬtɡbʕdȬtɡbʉ dȬ+ɡ#1F80bʽ dǟxƲ+ǞxƲ+ǟxȬ xƲ+ǞxȬ xƲ+ǟxɡ xƲ+Ǟxɡ xƲ+ǟxǓ xƲ+ǞxǓ xƲowiʽ dǟxǁtǞxǁtǟxȬ xǁtǞxȬ xǁtǟxɡ xǁtǞxɡ xǁtǟxǓ xǁtǞxǓ xǁoriETA dǟxƲ%ǞxƲ%ǟxȬ xƲ%ǞxȬ xƲ%ǟxɡ xƲ%Ǟxɡ xƲ%ǟxǓ xƲ%ǞxǓ xƲowiETA dǟxǁ+Ǟxǁ+ǟxȬ xǁ+ǞxȬ xǁ+ǟxɡ xǁ+Ǟxɡ xǁ+ǟxǓ xǁ+ǞxǓ xǁoriʉ dǟxƲ+ǞxƲ+ǟxȬ xƲ+ǞxȬ xƲ+ǟxɡ xƲ+Ǟxɡ xƲ+ǟxǓ xƲ+ǞxǓ xƲowiʉ dǟxǁtǞxǁtǟxȬ xǁtǞxȬ xǁtǟxɡ xǁtǞxɡ xǁtǟxǓ xǁtǞxǓ xǁoriʽ dVRACHY+Ǫ+Ȭ xƲ+Ʋ+ɡ xƲ#1FB6+Ǔĩ xƲowiʽ dVRACHYtǪtȬtɡtǁoKORONISoǁzSILIzERISPOMENIoʔxǓoriETA dȬ xƲ%Ʋ%ɡ xƲ#1FC6%Ǔħ xƲowiɿdȬyɡpTA dȬ+ɡ+ǁoǟxȬgɡgǓoriIOTA dVRACHY&Ǫ&ʔxȬīɡ#1FD6&Ǔ&ʔxǓowiIOTA dVRACHYsǪsȬsɡ#1FDDoǞxȬgɡgǓoriʕdVRACHYtǪtʔx",
  "ȬĮɡbRHO dPSILI%DASIAbʕdǓtʔxǓowiʕdVRACHYyǪyȬyɡfRHO dDASIAoʔxȬjɡoȬ#1FF2oriʉ dȬ xƲ+Ʋ+ɡ xƲ#1FF6+Ǔĩ xƲowi˔ dȬyɡlEGA dȬtɡtǁoɡoDASIA#2000aEN QUADāM QUADāN ʻāM ʻaTǘ-PER-EM ʻa~-PER-EM ʻaɌ-PER-EM ʻaFIGURE ʻaǸʻaTHIN ʻaHAIR ʻaZERO WIDTH ʻ(NON-JOINER(JOINERaȱTO-:=aǆ-TO-<=aHYPHENaNON-BREAKING HYPHENaFIGURE DASHaEN DASHāM DASHaƘɢa^ƋʄzǾʄa<Ȝ Ǣ=a:Ȝ Ǣ=aȜ LOW-9 Ǣ=zHIGH-REVERSED-9 Ǣ=a<^Ǣ=a:^Ǣ=a^LOW-9 Ǣ=zHIGH-REVERSED-9 Ǣ=āAGGERāOUBLE DAGGERaBULLETaȀBULLETa[ ƮLEADERaǐƮLEADERaƘELLIPSISāYPHENATION POINTaȍȡaPARAGRAPH ȡaȱTO-:EMBEDDINGaǆ-TO-<EMBEDDINGaPOP DIRECTIONAL FORMATTINGaȱTO-:OVERRIDEaǆ-TO-<OVERRIDEaN_NO-BREAK ʻaPER MILLE >Ąˬ ƞ >āRIMEa^PRIMEaǹPRIMEaƦPRIME$^PRIME$ǹPRIMEaCARETaȜ ȱƏǲǢ=zǆ-ƏǲǢ=aREFERENCE =a^ǧ=aINTERROBANGaOVERʄaUNDERTIEaɽTIEāARET INSERTION POINTaASTERISMaHYPHEN BULLETaȴSLASHa<ǃƥ dQUILLa:ǃƥ dQUILLa",
  "^Ȉ=aȈǧ=aǧȈ=aTIRONIAN @ETaƦPILCROW >aƗƍBULLEToƇBULLETaǾɮaƦSEMIʧaCLOSE UPaǐɮS ALIGNED ʚLYaCOMMERCIAL MINUS >aSWUNG DASHaƭUNDERTIEaFƷǸ=aƽƮȔaɾPRIMEa~ ƮȔāɊ ƮȔaǐƮȔa~ Ʈ=aȗɠaTRIʧaƋ~ ʓSaƿ˘ʻaWORD JOINERaFUNCTION APPLICATIONaINVISIBLE TIMES,ȡ,PLUS#2066aȱTO-:ISOLATEaǆ-TO-<ISOLATEaFIRST STRONG ISOLATEaPOP DIRECTIONAL ISOLATEaINHIBIT SYMMETRIC SWAPPINGaACTIVATE SYMMETRIC SWAPPINGaINHIBIT ʋʮˈPINGaACTIVATE ʋʮˈPINGaNATIONAL ʆˈPESāOMINAL ʆˈPESaɈZEROuǱriI#2074u~nɊuɌnǩuǄuǰuƳ>uMINUSuȟ>u<ǒu:ǒuǱriNĂBɉZERO,[,Ȓ(ǘ,~(Ɋ,Ɍ(ǩ,Ǆ,ǰ,Ƴ>,MINUS,ȟ>,<ǒ,:ǒ#2090aǱSUBɉriA&E&O&X&SCHWA&H&K&L&M&N&P&S&T#20A0aEURO-CURRENCY >aʧ >āRUZEIRO >aFRENCH FRANC >aLIRA >aMILL >aNAIRA >aPESETA >aRUPEE >aWON >aNEW SHEQEL >aDONG >aEURO >aKIP >aTUGRIK >aDRACHMA >aGERMAN PENNY >aPESO >aGUARANI >aAUSTRAL >aHRYVNIA >aCEDI >aLIVRE TOURNOIS >aSPESMILO >a",
  "ˬGE >aINDIAN RUPEE >aTURKISH LIRA >aNORDIC = >aMANAT >aRUBLE >aLARI >aBITCOIN >aSOM >#20D0aǋ<ǔ),:ǔ),ǬƋȍɍ,ǽƋȍɍ,ǿ_),ɝ_),<_),:_)uNG ɍ,ɝȆɍ,ǿȆɍ,ƽǗ),~ Ǘ),ENCLOSING ǜjǤjȼjƸBACKSLASH,<:_),ENCLOSING SCREENjKEYCAPjUPWARD ƏƼ,Ʌʰ ɍ,^ƋƜ ɍ,ANNUITY Ɲ,ǹUNDERʓ,WIDE BRIDGE ),ƍ_ɍ(ONG ^ʰ ɍ,ƇǔdǍɱ,ƍǔdǍɱe _?,:_?,ɮ )#2100aACCOUNT OFāDDRESSED ɫTHE SUBJECTaȥ-˹wCāEGREE CELSIUSaɑ ȍƝāARE OFĂDA UNAaEULER CONSTANTaSCRUPLEaDEGREE FAHRENHEITaɉrGzwHaȲ-iwHaȥ-˹wHaPLANCK CONSTANTc ƹǐPIaɉwIaȲ-iwIaɉwLzrLaL B ɢ Ɲaȥ-˹wNaNUMERO >aSOUND RECORDING COPYǆāCRIPT wPaȥ-˹wPpQaɉwRaȲ-iwRaȥ-˹wRaPRESCRIPTION TAKEaRESPONSEaSERVICE =aTELEPH[ >āRADE = >aVERSICLEaȥ-˹wZaOUNCE >āHM >aƭOHM >aȲ-iwZaƵɛriIOTAaKELVIN >aANGSTROM >aɉwBaȲ-iwCaESTIMATED ƝaɉrEzwEcFaƵwFaɉwMzrOaɰƝaBET ƝaGIMEL ƝaDALET Ɲa˺SOURCEaˀwQaFACSIMILE >aȥ-˹rPIjʾewʾpPIeN-ARY SUMMATIONaƵȁwG",
  "vLaƦȁwLaƵȁwYaȥ-˹˻wDfrD!E!I!JaPROPERTY ʄaƵAMPERSANDaPER >aAKTIESELSKABaƵrFaƝ ʅSAMARITAN SOURCEaVULGAR ȴ[ SǩTHjNINTHjˬTHfHIRDgǐTHIRDSg[ FIFTHgǐFIFTHSkǘ FIFTHSg~ FIFTHSg[ ɌTHgȠɌTHSg[ ǄHgƽǄHSgȠǄHSgSǩ ǄHSaȴNUMERATʒ[aROMAN ˟[eȒcǘe~cɊeɌcǩeǄeǰeˬeELǩeTWELVEeFIFTYe[ ƫeȠƫe[ ƞarROMAN ˟[jȒfǘj~fɊjɌfǩjǄjǰjˬjELǩjTWELVEjFIFTYj[ ƫjȠƫj[ ƞaROMAN ˟[ ƞ C DeȠƞeˬ ƞeƦ[ ƫaǱriƦCaROMAN ˟Ɍ LATE FORMeFIFTY EARLY FORMjƞe[ ƫ ƞaVULGAR ȴZERO THIRDSaƵʆȒeǘ#2190aƍ*aƤ*aƇ*aƚ*a<:*aɁǂ*aȂ*oEAST *aǛ*oɵ*aƍ_dƜaƇ_dƜaƍWAVE *aƇWAVE *aƍǐȮED *aƤǐȮED *aƇǐȮED *aƚǐȮED *aƍ_dȵaƇ_dȵaƍ_ȽaƤ_ȽaƇ_Ƚaƚ_ȽaɁǂ_dBASEaƍ_dǶaƇ_dǶaƍ_dLOOPaƇ_dLOOPa<:WAVE *(_dƜaƚZIGZAG *aƤ_dTIP ȶWARDSlǆWARDSaƚ_dTIP ȶWARDSqǆWARDSaƇ_dɭɱaƚ_dɭȶWARDSaǿʐSEMIƸ*aɝʐSEMIƸ*aȂ_ɫǬɢaƍ_ɫɢ ƹƇ_ɫɢaǿǴƸ*aɝǴƸ*aƍǔdǍUPWARDS%ɱaƤǔdǍǆWARDSvȶWARDSaƇǔdǍUPWARDS&ɱaƚǔdǍǆWARDS%ȶWARDSaƇ_ƹƍ*aƤ_ƍǭƚ*aƍ_ƹƇ*,PAIRE",
  "D *SaƤPAIRED *SaƇPAIRED *SaƚPAIRED *SaƍǔƹƇHARPOONaƇǔƹƍHARPOONaƍ^_dƜĄ :^_dƜaƇ^_dƜaƍ^*aƤ^*aƇ^*aƚ^*a<:^*aɁǂ^*aȂ^*oEAST ^*aǛ^*oɵ^*aƍǹ*aƇǹ*aƍSQUIGGLE *aƇSQUIGGLE *aƤ_d^Ɯaƚ_d^Ɯaƍ˙*aƤ˙*aƇ˙*aƚ˙*aƍ_ɫɢaƇ_ɫɢaƍƔ*aƤƔ*aƇƔ*aƚƔ*aƤƔ_ȽjON PEDESTALs dƘɢĥƋɢe^*v ON PEDESTALaƇƔ_FROM WALLaȂ_ɫ˯aǛ_ɫ˯aɁǂƔ*a:_drǜaƚ_ƍǭƤ*aƽƇ*Saƍ_dƋƜaƇ_dƋƜa<:_dƋƜĄWARDS _d^ƋƜaƇ_d^ƋƜa<:_d^ƋƜĄWARDS OPEN-ȮED *aƇOPEN-ȮED *a<:OPEN-ȮED *aʅALLaCOMPLEMENTaɧaTHERE EXISTSoDOES ɆEXISTaEMPTY SETaINCREMENTaNABLAa˧OFaɆAN ˧OFar˧OFa˽AS MEMBERaDOES ɆCONTAIN AS MEMBERar˽AS MEMBERaʬǭPROOFaN-ARY ˚oCO˚oSUMMATIONaMINUS >ą-OR-Ƴ>aƮPLUSāIVISION SLASHaSET MINUSaɮ ǨaȆǨaBULLET ǨaǃROOTaCUBE ROOTa~TH ROOTaPROPORTIONAL TOaINFINITYa:ANGLEaANGLEaMEASURED ANGLEaSPHERICAL ANGLEaDIVIDESāOES ɆDIVIDEaPARALLEL TOaɆPARALLEL TOaʘAND.ORaɨaUNIONaʙa^ʙaǹʙaCONTOUR ʙaSURȏ ʙaVOLUME ʙ",
  "aɝʙ,CONTOUR ʙaǿCONTOUR ʙaTHEREFOREaBECAUSEaRATIOaPROPORTIONaƮMINUSaEXCESSaGEOMETRIC PROPORTIONaHOMOTHETICaȅ ǨaƦȅaƭLAZY SaSINE WAVEaWREATH ˚aɆȅaMINUS ȅaASYMPTOTICALLY ƴaɆASYMPTOTICALLY ƴaAPPROXIMATELY ƴeBUT ɆACTUALLY ƴaNEITHER APPROXIMATELY NʒACTUALLY ƴaʊƴaɆʊƴaʊEQUAL ʒƴaǹȅaALL ƴaȨaGEOMETRICALLY ȨaDIFFERENCE BETWEENaAPPROACHES THE LIMITaGEOMETRICALLY ƴaAPPROXIMATELY ƴ ʒTHE IMAGE OFaIMAGE ǭʒAPPROXIMATELY ƴaʧ EQUALSaȟʧaȆIN ƴąƴaCORRESPONDS TOaESTIMATESāQUIANGULAR TOaɗ EQUALSaDELTA ƴaƴ BY DEFINITIONaMEASURED BYaQUESTI[D ƴaɆƴaIDENTICAL TOaɆIDENTICAL TOaSTRICTLY ȨaǅʒƴaƪʒƴaǅƹƴaƪƹƴaǅBUT ɆƴaƪBUT ɆƴaMUCH ȯąȎaBETWEENaɆȨĄȯĄȎāEITHER ǅNʒƴ.ƪNʒƴaǅʒȨaƪʒȨaNEITHER ǅNʒȨ.ƪNʒȨaǅʒȎaƪʒȯaNEITHER ǅNʒȎ.ƪNʒȯaPRECEDESaSUCCEEDSaʶʒƴaʷʒƴaʶʒȨaʷʒȨaDOES ɆPRECEDE$SUCCEEDaSUBSET OFĂʍOFaɆA SUBSET OF.ʍOFaSUBSET ǭʒƴĂʍǭʒƴaNEITHER A",
  " SUBSET ǭNʒƴuʍǭNʒƴaSUBSET ǭdɆƴĂʍǭdɆƴaMULTISET. MULTIPLICATION$UNIONaǃIMAGE OFzORIGINAL OFzIMAGE ǭʒƴzORIGINAL ǭʒƴzCAP.UPaǌPLUS.MINUS.TIMES.DIVISION SLASH$OT Ǩ.ȆǨ.ɮ Ǩ.EQUALS.DASHaǤD PLUS.MINUS.TIMES.ƮǨa:TACKa<TACKaǂTACKaɁTACKaASSERTIONaMODELSaTRUEaFORCESaǹƋɢ :˾a^Ƌɢ ^:˾ĂES ɆPROVEaɆTRUEaDOES ɆFORCEaNEGATED ^Ƌɢ ^:˾aʶUNDER RELATIONaʷUNDER RELATIONa˛ɁOFa˽AS ˛UPa˛Ɂǭʒƴa˽AS ˛ɁʒƴaORIGINAL OFaIMAGE OFaMULTIMAPaHERMITIAN CONJUGATE MATRIXaINTERCALATEaXORaNANDāORa:ǲdARCoƼaN-ARY ʘANDeORoɨoUNIONaȼ ǨāOT Ǩaɗ ǨaDIVISION TIMESaBOWTIEa<NORMAL FACTʒSEMIDIRECT ˚a:NORMAL FACTʒSEMIDIRECT ˚a<SEMIDIRECT ˚a:SEMIDIRECT ˚āEVERSED ȅ EQUALSaɕʘOReANDa^SUBSET$PERSETzɨzUNIONaPITCHFORKaEQUAL xPARALLEL TOaǅdʓaƪdʓaɹMUCH ȯ,Ȏaǅƴ ʒȎaƪƴ ʒȯaƴ ʒȯuȎuPRECEDESuSUCCEEDSaDOES ɆPRECEDE ʒEQUAL$SUCCEED ʒEQUALaɆǃIMAGE ǭʒƴ(ORIGINAL ǭʒƴaǃIMAGE ",
  "ǭʒɆƴzORIGINAL ǭʒɆƴaǅBUT ɆȨaƪBUT ɆȨaʶBUT ɆȨaʷBUT ɆȨaɆ˛ɁOFaDOES ɆCONTAIN AS ˛UPaɆ˛ɁǭʒƴaDOES ɆCONTAIN AS ˛ɁʒEQUALaƋELLIPSISaMIDȍƘELLIPSISaɁ:ǙELLIPSISaǂ:ǙELLIPSISa˧ǭdǬƘƜgƋɢ AT ʬǭƘƜar˧ǭdƋɢ AT ʬǭƘƜa˧ǭdƮ)gOVERɢar˧ǭdOVERɢa˧ǭdȦgǐƘƜSa˽dǬƘƜeƋɢ AT ʬǭƘƜar˽dƋɢ AT ʬǭƘƜa˽dOVERɢar˽dOVERɢaZ ˿BAG MEMBERSHIPaDIAMETER >aELECTRIC *aHOUSEaɁ*Ȯaǂ*ȮaPROJECTɊāERSPECTɊaWAVY ʄa<CEILINGa:CEILINGa<FLOORa:FLOORaȩ:CROPz<CROPaʐ:CROPĄ<CROPaƦɆ>aǃ˼aARCaSEGMENTĂCTORaTELEPH[ RECORDERaPOSITION INDICATORaVIEWDATA ǤaPLACE ǭINTEREST >aƵɆ>aWATCHaHOURGLASSaʐ<˯Ą:˯aȩ<˯z:˯aʐƺʙaȩƺʙaFROWNaSMILEaɁ*Ȯ BETWEEN ǐƘɢSaOPTION KEYaERASE ɫTHE ǆaX IN A RECTǲBOXaKEYBOARDaȱƏǲƥaǆ-ƏǲƥaERASE ɫTHE ȶaBENZENE ʏaCYLINDRICITYaALL AROUND-PROFILEaSYMMETRYaTOTAL RUNOUTaDIMENSION ORIGINaCONICAL TAPERaSLOPEaCOUNTERBOREzSINKaAPL FUNCTIONAL Ɲ I-BEAMpSQUISH QUADpQUAD",
  " EQUAL!DIVIDE&AMOND!JOT!ǜpƸSTILE&JOTpSLASH ɢpBACKSLASH ɢpQUAD SLASH!BACKSLASH!ȯ!ȎpƍVANEpƇVANEpQUAD ƍ*!Ƈ*pƸBACKSLASHpǂTACK ȦlELTA STILEpQUAD ǂCARET%ELTApǂTACK JOTpƤVANEpQUAD Ƥ*pɁTACK OVERɢpDEL STILEpQUAD ɁCARET!DELpɁTACK JOTpƚVANEpQUAD ƚ*hOTE ȦpDELTA ȦlIAMOND ȦpJOT ȦpƸȦpɁSHOE JOTpQUOTE QUADpƸɗpQUAD ʧpɁTACK ƶpDEL ƶpɗ ƶpJOT ƶpƸƶpǂSHOE STILEp<SHOE STILEpȅ ƶpƪƶpȿ ɢpDEL ȅpZILDEpSTILE ȅlEMIʧ ȦpQUAD ɆEQUAL!QUESTIONpǂCARET ȅpɁCARET ȅpIOTApRHOpʉpʽ ȦpɿȦpIOTA Ȧpʉ ȦpʽaɆCHECK =a:ǲdƚZIGZAG *aSHOULDERED ǴBOXaBELL ƝaƋȍdƖʓaINSERTION ƝaCONTINUOUS UNDERȍƝaDISCONTINUOUS UNDERȍƝaEMPHASIS ƝaCOMPOSITION ƝaƔǃdɑ ƋʄaENTER ƝaALTERNATɊ KEY ƝaHELM ƝaǌƘɢ dNOTCH.Ƽ ˎaBROKEN ƸdNORTHɵ*aUNDO ƝaMONOSTABLE ƝaHYSTERESIS ƝaOPEN-CIRCUIT-OUTPUT H-TYPE ƝjL-TYPE ƝaPASSɊ-PULL-ˎ-OUTPUT ƝnUP-OUTPUT ƝaDIRECT CURRENT Ɲ ʮȒaSOFTWARE-FUNCTI",
  "ON ƝaAPL FUNCTIONAL Ɲ QUADaDECIMAL ȡ KEY ƝaPREVIOUS PAGEaNEXT PAGEaPRINT SCREEN ƝaCLEAR SCREEN Ɲa<ǒ ƾǶkEXˬSIONkƷǶa:ǒ ƾǶmEXˬSIONmƷǶa<ǃƥ ƾ˯jEXˬSIONjƷ˯a:ǃƥ ƾ˯fEXˬSIONfƷ˯a<ɕƥ ƾǶbƖPIECEbƷǶaɕƥ EXˬSIONa:ɕƥ ƾǶjƖPIECEjƷǶaʙ EXˬSIONaƘȍEXˬSIONaƾ<ʒƷ:ɕƥ SECTIONo:ʒƷ<ɕƥ SECTIONaSUMMATION TOP,BOTTOMaʐǃƥaȩǃƥf ƹʐǃƥaRADICAL Ɲ BOTTOMa<ƋBOX ʄa:ƋBOX ʄaƘSCAN ʄ-1f3f7f9aDENTISTRY Ɲ ǉƋxʐǆĤȩǆtdǜlǂxƘdǜlɁxƘdǜlƋdƼlǂxƘdƼlɁxƘdƼlƋxWAVElǂxƘdWAVElɁxƘdWAVElǂxșlɁxșlƋxʐȶĤȩȶaǃFOOTaRETURN ƝaEJECT ƝaƋȍEXˬSIONaMETRICAL ɀ$ǬƹSHORT$ǽƹLONG$ǬƹǐSHORTS$ǐSHORTS ƹLONGjJOINED,RISEME,ETRASEME$PENTASEMEaEARTH GROUNDaFUSEaʐǒaȩǒaʐɕƥaȩɕƥaʐǦƥaȩǦƥaƔTRAPEZIUMaBENZENE ȆdǜaˇNESSaFLATNESSaAC CURRENTaELECTRICAL ɨaDECIMAL EXP[NT ƝaƗǆ-Ə^ƼoȱƏ^ƼoUP-Ə^Ƽoˎ-Ə^Ƽoǆ-Ə^Ƽ dƋɢoȱƏ^Ƽ dƋɢoǆ-ƏƼ d^ƋɢaALARM CLOCKaSTOPWATCHaTIMER CLOCKaHOURGLASS dFLOWING SANDaƗƿȱƏƼnǆ-ƏƼnUP",
  "-ƏƼnˎ-ƏƼa^ƋɢaƗǃʅSTOPoƸʅRECORDaPOWER ƝoON-OFF Ɲ. ƝoSLEEP ƝaOBSERVER EYE ƝaƝ ʅNULL(ɗT ǭȮINGjTEXT(ʬǭTEXTbRANSMISSIONnQUIRY(ACKNOWLEDGE(BELLuACKʻ(ƘTABULATION(ȍFEED(ƋTABULATION(ʮFEED(CARRIAGE RETURN(SHIFT OUTkIN(DATA LINK ESCAPEu˂[vȒ!ǘv~(NEGATɊ ACKNOWLEDGE(SYNCHRONOUS IDLE(ʬǭTRANSMISSION Ȟ(CANCEL(ʬǭɋ(SUBSTITUTE(ESCAPE(FILE ȡ(GROɁȡ(RECORD ȡ(UNIT ȡ(ʻ(DELETEaBLANK ƝaǴBOXaƝ ʅNEWʄ(DELETE ʮȒ(SUBSTITUTE ʮȒ#2440aOCR ǶĄCHAIRĄFORKĄƭFORKĄBELT BUCKLEąOW TIEąRANCH BANK IDENTIFICATIONĄAMOUNT ǭCHECKĄDASHĄCUSTOMER ACCOUNT NUMBERĄ^BACKSLASH#2460aǌʆ[eȒcǘe~cɊeɌcǩeǄeǰ.ǇˬcELǩcTWELVEgHIRˍc~ˍgIFˍcɌˍgǩˍcǄEENcǰˍcTɷaPARENTHESIZED ʆ[jȒfǘj~fɊjɌfǩjǄjǰeǇˬfELǩfTWELVEpHIRˍf~ˍpIFˍfɌˍpǩˍfǄEENfǰˍfTɷaʆ[ ǈoǐǈzǘ ǈo~ ǈzɊ ǈoɌ ǈzǩ ǈoǄ ǈoǰ ǈaǇˬ ǈzELǩ ǈzTWELVE ǈ.HIRˍ ǈz~ˍ ǈ.IFˍ ǈzɌˍ ǈ.ǩˍ ǈzǄEEN ǈzǰˍ ǈzTɷ ǈaPARENTHESIZED ǱriA;B;C;D;E;F;G",
  ";H;I;J;K;L;M;N;O;P;Q;R;S;T;U;V;W;X;Y;ZaǌǱwiA&B&C&D&E&F&G&H&I&J&K&L&M&N&O&P&Q&R&S&T&U&V&W&X&Y&ZeriA!B!C!D!E!F!G!H!I!J!K!L!M!N!O!P!Q!R!S!T!U!V!W!X!Y!Z.ƣaNEGATɊ ǌǇELǩhTWELVEqHIRˍh~ˍqIFˍhɌˍqǩˍhǄEENhǰˍhTɷa^ǌʆ[fȒpǘf~pɊfɌpǩfǄfǰcǇˬaNEGATɊ ǌƣaBOX DRAWINGS ǉșnƠșnǉʚnƠʚnǉǹ˃șnƠǹ˃șnǉǹ˃ʚnƠǹ˃ʚnǉɾ˃șnƠɾ˃șnǉɾ˃ʚnƠɾ˃ʚnǉǂxǆnǂǉx:˄mƠx:ɶnƠǂxǆnǉǂxȶnǂǉx<˄mƠx<ɶnƠǂxȶnǉɁxǆnɁǉx:˄gƠx:ɶnƠɁxǆnǉɁxȶnɁǉx<˄gƠx<ɶnƠɁxȶnǉƋxǆnƋǉx:˄nɁƠx:ǂɶnǂƠx:ɁɶnƋƠx:ɶnǂǉx:Ɂ˄nɁǉx:ǂ˄nƠƋxǆnǉƋxȶnƋǉx<˄nɁƠx<ǂɶnǂƠx<ɁɶnƋƠx<ɶnǂǉx<Ɂ˄nɁǉx<ǂ˄nƠƋxȶnǉǂxșeEFT Ơx:ǂɶn:Ơx<ǂɶnǂǉxƘ˄mƠxƘɶn:ǉx<ǂ˄n<ǉx:ǂ˄nƠǂxșnǉɁxșeEFT Ơx:Ɂɶn:Ơx<ɁɶnɁǉxƘ˄gƠxƘɶn:ǉx<Ɂ˄n<ǉx:Ɂ˄nƠɁxșnǉƋxșeEFT Ơx:Ƌɶn:Ơx<ƋɶnƋǉxƘ˄nɁƠxǂƘɶnǂƠxɁƘɶnƋƠxƘɶn<ɁƠx:ǂɶn:ɁƠx<ǂɶn<ǂƠx:Ɂɶn:ǂƠx<ɁɶnǂǉxɁƘ˄nɁǉxǂƘ˄n:ǉx<Ƌ˄n<ǉx:Ƌ˄nƠƋxșnǉ^˃șnƠ^˃șnǉ^˃ʚnƠ^˃ʚn^șjʚcWN Ȝ x:ȥm^x:ȜcUBLE ǂxǆcWN Ȝ x<ȥm^x<ȜcUBLE ǂxȶnɁȜ x:ȥg^x:Ȝn^ɁxǆnɁȜ x<ȥg^x<Ȝn",
  "^ɁxȶnƋȜ x:ȥp^x:Ȝn^ƋxǆnƋȜ x<ȥp^x<Ȝn^ƋxȶcWN Ȝ xƘȥm^xƘȜcUBLE ǂxșnɁȜ xƘȥg^xƘȜn^ɁxșnƋȜ xƘȥp^xƘȜn^ƋxșnǉARC ǂxǆtȶlɁxȶ+ǆbǙƾ:ɫƷȶy<ɫƷǆ%ɠbȶbUPbǆbˎnƠȶbUPbǆbˎnǉ<xƠǆbɁxƠˎnƠ<xǉǆbɁxǉˎaƾƺȞaƷ[ ǄH Ȟ,ȧȞoƽǄHS ȞoƺȞoȠǄHS ȞoƽˏȞoSǩ ǄHS ȞaFULL Ȟa<Sǩ ǄHS ȞąƽˏȞąȠǄHS ȞąƺȞąƽǄHS Ȟą[ ȧȞ$ǄH Ȟa:ƺȞaǉˈDEaƿˈDEaDARK ˈDEaƾ[ ǄH Ȟa:[ ǄH ȞaQUADRANT Ʒȶcǆ$ƾȶb xƷ<xƷǆ+ǆhƾ:xƷȶĮǆcǆj xƷȶģ xƷǆaƗǤaƔǤu dˠ˯Sn˨ƗrǤaǃdƘFILLuƋFILLuORTHOGONAL ɠHATCH FILLuƾ<ɫƷ:FILLm:ɫƷ<FILLuǙɠHATCH FILLaƗrǤaƔrǤaƗRECTANGLEaƔRECTANGLEaƗƋRECTANGLEaƔƋRECTANGLEaƗPARALLELOGRAMaƔPARALLELOGRAMaƗUP-ƏƼaƔUP-ƏƼaƗUP-ƏrƼaƔUP-ƏrƼaƗǆ-ƏƼaƔǆ-ƏƼaƗǆ-ƏrƼaƔǆ-ƏrƼaƗǆ-ƏPOINTERaƔǆ-ƏPOINTERaƗˎ-ƏƼaƔˎ-ƏƼaƗˎ-ƏrƼaƔˎ-ƏrƼaƗȱƏƼaƔȱƏƼaƗȱƏrƼaƔȱƏrƼaƗȱƏPOINTERaƔȱƏPOINTERaƗȼaƔȼn ˨ƗrȼaFISHEYEa˼aƔǜaȗǜaƸdƋFILLaBULLSEYEāLACK ǜaƸd<ƺȲu:ƺȲuƷƺȲuƾƺȲm:QUADRANT ȲuALL BUT ƾ<QUADRANT Ȳa<ƺƗǜa:ƺƗǜa˩BULLET.Ɣǜaƾƺ˩ƔǜaƷƺ˩",
  "Ɣǜaƾ<ˉo:ˉaƷ:ˉo<ˉaƾƺǜaƷƺǜaƗƷ:Ƽu<Ƽoƾ<Ƽu:ƼaƔBULLETaǃd<ƺȲu:ƺȲuƾ<ǙƺȲuƷ:ǙƺȲaƔǃdƋBISECTING ʄoUP-ƏƼ dʓaUP-ƏƼ d<ƺȲv:ƺȲaȤǜaƔǃdƾ<QUADRANTmƷ<QUADRANTh:QUADRANTmƾ:QUADRANToƸdƾ<QUADRANTmƷ<QUADRANTh:QUADRANTmƾ:QUADRANTaƾ<Ƽo:ƼaƷ<ƼaƔƿǤaƗƿǤaƔƿrǤaƗƿrǤaƷ:ƼaƗSUN dRAYSaCLOUDaUMBRELLAaSNOWMANaCOMETaƗɗaƔɗaɶNINGaTHUNDERSTORMaSUNaASCENDING NODEaDESCENDING NODEaCONJUNCTIONaOPPOSITIONaƗTELEPH[aƔTELEPH[aBALLOT BOX, dCHECKgXaSALTIREaUMBRELLA dRAIN DROPSaHOT BEVERAGEaƔSHOGI PIECEaƗSHOGI PIECEaˈMROCKaƦˀFLORAL HEART BULLETaƗ<ƏȾo:ƏȾaƔ<ƏȾoɁƏȾo:ƏȾoǂƏȾaSKULL xɠB[SaCAUTION >aRADIOACTɊ >aBIOHAZARD >aCADUCEUSaANKHaORTHODOX ɠaCHI RHOāROSS ǭLORRAINE$JERUSALEMaɗ xCRESCENTaFARSI ƝaADI ˈKTIaHAMMER xSICKLEaPEACE ƝaYIN YANGaTRIGRAM ʅHEAVENuLAKEuFIREuTHUNDERuWINDnATERuMOUNTAINuEARTHaWHEEL ǭDHARMAĂITE FROWNING ȏoɩȏaƗɩȏaƔSUN dRAYSaFIRST ȧ",
  "MOONaLAST ȧMOONaMERCURYaFEMALE >aEARTHaMALE >aJUPITERaSATURNaURANUSaNEPTUNEaPLUTOaARIESaTAURUSaGEMINIaCANCERaLEOaVIRGOaLIBRAaSCORPIUSāAGITTARIUSaCAPRICORNaAQUARIUSaPISCESaƔʇKINGuQUEENuROOKuBISHOPuKNIGHTuPAWNaƗʇKINGuQUEENuROOKuBISHOPuKNIGHTuPAWNoSPADE SUITaƔHEART SUIToȼ SUITaƗCLUB SUITaƔSPADE SUITaƗHEART SUIToȼ SUITaƔCLUB SUITaHOT SPʏSaȧ˪aǄH ˪aBEAMED ǄH ˪SzɌˍTH ˪SaMUSIC FLAT >oNATURAL >oˈRP >aɵSYRIAC ɠaEAST SYRIAC ɠaUNɊRSAL RECYCLING ƝaRECYCLING Ɲ ʅTYPE-1 PLASTICSv2 PLASTICSv3 PLASTICSv4 PLASTICSv5 PLASTICSv6 PLASTICSv7 PLASTICSfGENERIC MATERIALSaƗUNɊRSAL RECYCLING ƝaRECYCLED PAPER ƝaPARTIALLY-RECYCLED PAPER ƝāERMANENT PAPER >aWHEELCHAIR ƝaDIE ȏ-1$2$3$4$5$6aƔƸdƮǆmǐʓSaƗƸdƔƮǆmǐƔʓSaMONOGRAM ʅYANGeINaDIGRAM ʅGREATER YANG(LESSER YINbANG(GREATER YINaƔFLAGaƗFLAGaHAMMER xPICKaANCHORaɠED SWORDSaSTAF",
  "F ǭAESCULAPIUSāCALESaALEMBICaFLOWERaGEARaSTAFF ǭHERMESaATOM ƝaFLEUR-DE-LISaOUTʄD ƔɗaƽʄS CONVERGING ǆlȶaWARNING >aǡVOLTAGE >aȥD FEMALE >.MALE >aINTERLOCKED FEMALE xMALE >aMALE xFEMALE >ądƜ >kxMALE xFEMALE >aƋMALE dƜ >aƘMALE dƜ >aƿƔǜzƗǜzrƔǜāARRIAGE ƝaDIVORCE ƝaUNMARRIED PARTNERSHIP ƝaCOFFINaFUNERAL URNaNEUTERaCERESaPALLASaJUNOaVESTAaCHIRONaƗ˴LILITHaSEXTILEĂMISEXTILEaQUINCUNXaSESQUIQUADRATEāOCCER BALLaBASEBALLaǤD KEYaƔDRAUGHTS MANcKINGaƗDRAUGHTS MANcKINGaSNOWMAN WITHOUT SNOWāUN BEHIND CLOUDaRAINaƗSNOWMANaTHUNDER CLOUD xRAINāURNED ƔSHOGI PIECEzƗSHOGI PIECEaƔȼ IN ǤaǵLANESaDISABLED CARaOPHIUCHUSaPICKaCAR SLIDINGaHELMET dƔɠaǌǵLANESāHAINSaNO ENTRYaȚ[-WAY <WAY TRAFFICaƗȒ-WAY <WAY TRAFFICaƔȒ-WAY <WAY TRAFFICaƗ<LANE MERGEaƔ<LANE MERGEaDRɊ SǾ>aƠƔˎ-ƏƼa<ȖENTRYaǤD SALTIREaFALLING ǙIN ƔƸIN ƗǤaƗTRUCKaRESTR",
  "ICTED <ENTRY-1p2aASTRONOMICAL Ɲ ʅURANUSaƠƸdƜ xǐǗ)aPENTAGRAMaǆ-HANDED INTERLACED PENTAGRAMaȱHANDED INTERLACED PENTAGRAMaƭPENTAGRAMaƗɠ ON SHIELDaSHINɫSHRINEaCHURCHāASTLEaHISTORIC SITEaGEAR WITHOUT HUB$ HANDLESaMAP Ɲ ʅɶHOUSEāOUNTAINaUMBRELLA ON GROUNDaFOUNTAINāLAG IN HOLEāERRYaSAILBOATāQUARE ~ ˯SāKIERaICE SKATEaPERSON dBALLaˬTaJAPANESE BANK ƝaȮST[ ȐYARD ƝaFUEL PUMPaCɁON ƗǤaƔFLAG dƘƖƗSTRIPEaƗSAFETY SCISSORSaƾBLADE SCISSORSaƗSCISSORSaƷBLADE SCISSORSaƔSCISSORSoƠCHECK =aTELEPH[ LOCATION >āAPE DRɊaAIRPLANEaENVELOPEaɖFISTzHANDaVICTORY HANDaWRITING HANDaƷ:PENCILaPENCILaƾ:PENCILaƔNIBaƗNIBaCHECK =aƠCHECK =aɐXaƠɐXaBALLOT XaƠBALLOT XaOUTʄD ɛɠaƠɛɠaǴɑ ɠaƠǴɑ ɠaǱɠaȷƔǱɠaOUTʄD ǱɠaMALTESE ɠaɗ ǭDAVIDa~ ːǀąBALLOON-ǀaƠ~ BALLOON-ǀa~ CLUB-ǀaƗ~ ǮɗaƔ~ ǮɗaSPARKLESāTRESS OUTʄD ƔɗaǌƔɗaǴɑ ƗɗaƗɑ ƔɗaOUTʄD ƗɗaƠOUTʄD Ɨɗaˑɗaȷ",
  "ƔɗaƠɮaǴɑ ɮaǄ ǀoǮƗɗeˑɗaɌ ǮƗɗaǄ ǮRECTIʄAR ƗɗaƠǄ ǮRECTIʄAR ƗɗaTWELVE ǮƗɗaɌˍ ǮɮaːǀaǴɑ ːǀaƠːǀaɌ PETALLED ƗxƔFLORETTEaƗFLORETTEaƔFLORETTEaǄ PETALLED OUTʄD ƗFLORETTEaǌǴɑ Ǆ ǮɗaƠːSPOKED ˑɮaSNOWFLAKEaTIGHT TRIFOLIATE SNOWFLAKEaƠCHEVRON SNOWFLAKEaSPARKLEaƠSPARKLEaBALLOON-ǀaǄ ːSPOKED PROPELLER ɮaƠǄ ːSPOKED PROPELLER ɮaɠ =aȷƔǜaNEGATɊ ǤD ɠ =aƷ:DROP-ȷƔǤaƾ:DROP-ȷƔǤaƷ:ȷƔǤaƾ:ȷƔǤaƗȈ= ǊaƔȈ= Ǌoǧ= ǊaƗȼ MINUS ƔXaƠǧ= ƝaǉƋɢaƿƋɢaƠƋɢoȜ Ƶȿ Ǣ= Ǌnȿ Ǣ= Ǌo^Ƶȿ Ǣ= Ǌnȿ Ǣ= ǊoǾȜ ȿ Ǣ= Ǌ,^ȿ Ǣ= ǊaCURVED STEM PARAGRAPH @ǊaƠǧ= ǊoHEART ǧ= ǊoƗHEARTaˀƠƗHEART BULLETaFLORAL HEARTaˀFLORAL HEART BULLETaƿ<ǒ Ǌz:ǒ ǊzFLATˬED <ǒ Ǌk:ǒ ǊzȱƏǲƥ Ǌzǆ-Əǲƥ ǊaƠȱƏǲǢ= Ǌoǆ-ƏǲǢ= ǊoȱƏǲƥ Ǌoǆ-Əǲƥ Ǌaǉ<Ǧƥ Ǌo:Ǧƥ Ǌaƿ<ɕƥ Ǌz:ɕƥ ǊaDINGBAT NEGATɊ ǌʆ[sȒtǘs~tɊsɌtǩsǄsǰqǇˬ.ǌȁʆ[;Ȓyǘ;~yɊ;Ɍyǩ;Ǆ;ǰ!Ǉˬ.NEGATɊ ǌȁʆ[ĪȒīǘĪ~īɊĪɌīǩĪǄĪǰĤǇˬaƠWIDE-ȮED Ƈ*oƳ>oMINUS >oDIVISION >oǛ*oƇ*oȭ*",
  "aDRAFTING POINT Ƈ*aƠROUND-TIPPED Ƈ*aƌƇ*aƠƌƇ*a˙ƌƇ*aƠ˙ƌƇ*aƗƇ*aTǘ-D TOP-ɶED Ƈ*Ȯ.BOTTOM-ɶED Ƈ*ȮaƗƇ*ȮaƠƗCURVED ƚxƇ*bƤxƇ*aSQUAT ƗƇ*aƠCONCAVE-ǮƗƇ*aǆ-ˈDED ƔƇ*aȱˈDED ƔƇ*aBACK-TILTED ȷƔƇ*aFRONT-TILTED ȷƔƇ*aƠƷǆ-ȷƔƇ*oƾǆ-ȷƔƇ*aNOTCHED Ʒǆ-ȷƔƇ*aɕLOOPaNOTCHED ƾǆ-ȷƔƇ*aǌƠƔƇ*aWHITE-FEATHERED Ƈ*aȲ-FEATHERED Ǜ*gƇ*gȭ*aƠȲ-FEATHERED Ǜ*pƇ*pȭ*aːɢBED Ƈ*aƠːˈNKED Ƈ*aWEDGE-ȵED Ƈ*aƠWEDGE-ȵED Ƈ*aOPEN-OUTʄD Ƈ*a^ɕLOOPaƽDIMENSIONAL ANGLEaƔƼ ˨rƔƼaPERPENDICULARaǴSUBSETzPERSETa<S-ʱBAG DELIMITERa:S-ʱBAG DELIMITERaʒdƮˮaɅʰ PRECEDING SUBSETaSUʍPRECEDING ʰaƋɢ dƘƜa˘ʿDIAGONALaǬDIVISIONa˘FALLING DIAGONALaǤD ʘANDgORaƔȼ dɑD ʓaxdʓa˧ǭOPENING UPWARDSaƷ:ɭdʓaƾ<ɭdʓa<OUTER JOINa:OUTER JOINaFULL OUTER JOINaȤɁTACKoǂTACKāEFT x:^˾cTACKąMULTIMAPāONG :TACKą<TACKaɁTACK dƸ)a˼ DIVIDED BY ƘRULEaƔCONCAVE-SIDED ȼ! dƍTICK;ƇTICKoǃdƍTICKmƇTICKa˘<Ɣǃƥn:Ɣǃƥn<ǲƥn",
  ":ǲƥn<^ǲƥn:^ǲƥn<ƔǦƥn:ƔǦƥn<FLATˬED ǒn:FLATˬED ǒaƤɾ*aƚɾ*aǿGAPPED Ƹ*aɝGAPPED Ƹ*a:_dǌPLUSaǬƍ*ąƇ*ą<:*$WARDS ^*ąƇ^*ą<:^*$WARDS _ȽąƇ_Ƚąƍ^_ȽąƇ^_ȽgSQUIGGLE *aBRAILLE PATTERN BLANKgʓS-1f2f12f3f13f23f123f4f14f24f124f34f134f234f1234f5f15f25f125f35f135f235f1235f45f145f245f1245f345f1345f2345f12345f6f16f26f126f36f136f236f1236f46f146f246f1246f346f1346f2346f12346f56f156f256f1256f356f1356f2356f12356f456f1456f2456f12456f3456f13456f23456f123456f7f17f27f127f37f137f237f1237f47f147f247f1247f347f1347f2347f12347f57f157f257f1257f357f1357f2357f12357f457f1457f2457f12457f3457f13457f23457f123457f67f167f267f1267f367f1367f2367f12367f467f1467f2467f12467f3467f13467f23467f123467f567f1567f2567f12567f3567f13567f23567f123567f4567f14567f24567f124567f34567f134567f234567f1234567f8f18f28f128f38f138f238f1238f48f148f248f1248f348f1348",
  "f2348f12348f58f158f258f1258f358f1358f2358f12358f458f1458f2458f12458f3458f13458f23458f123458f68f168f268f1268f368f1368f2368f12368f468f1468f2468f12468f3468f13468f23468f123468f568f1568f2568f12568f3568f13568f23568f123568f4568f14568f24568f124568f34568f134568f234568f1234568f78f178f278f1278f378f1378f2378f12378f478f1478f2478f12478f3478f13478f23478f123478f578f1578f2578f12578f3578f13578f23578f123578f4578f14578f24578f124578f34578f134578f234578f1234578f678f1678f2678f12678f3678f13678f23678f123678f4678f14678f24678f124678f34678f134678f234678f1234678f5678f15678f25678f125678f35678f135678f235678f1235678f45678f145678f245678f1245678f345678f1345678f2345678f12345678aƇȒ-ȮED _dƋƜ;^ƋƜaƍ^_dƋƜaƇ^_dƋƜa<:^_dƋƜaƇȒ-ȮED _Ƚaƍ^_ȽaƇ^_Ƚaƚ_dƘƜaƤ_dƘƜ.ǹ*aƚǹ*aƍ^˃*aƇ^˃*aƍǹ˃*aƇǹ˃*uWO-ȮED ǹ˃*(_dȗSTEMaƤ_ɫɢaƚ_ɫɢaƇ_dȵ dƋƜt^ƋƜ(Ȓ-ȮED _dȵ",
  "ĥ dƋƜī^ƋƜaƍ*-ȵaƇ*-ȵaƍ^*-ȵaƇ^*-ȵaƍ_ɫƗȼaƇ_ɫƗȼaƍ_Ƚ ɫƗȼaƇ_Ƚ ɫƗȼaȂxǛ*oEAST x˰ɵ*oɵ_dǶoEAST _dǶaǛ_dǶoɵ_dǶaȂ_xȭ*oEAST _xǛ*aǛ_x˰ɵ*oɵ_xȂ*aʿǙǵFALLING DIAGONALaFALLING ǙǵʿDIAGONALaǛ_ǵȭ*aȭ_ǵǛ*aFALLING Ǚǵȭ*aʿǙǵǛ*aȭ_ǵȂ*oɵ_ǵȭ*aWAVE _ƏDIRECTLY ǆa_ƏƇTHEN CURVING UPWARDSħɱcƚTHEN CURVING ȶWARDSĦǆWARDSaǆ-SIDE ARC ɝ*aȱSIDE ARC ǿ*aʐARC ǿ*aȩARC ǿ*aʐARC ɝ_dMINUS.ǿ_dPLUSaƷ:SEMICIRCULAR ɝ*o<SEMICIRCULAR ǿ*aǿȖƸ*aɝȖƸ*aƇ_) ǽƍ*aƍ_) ǽƇ*aǽƇ_) ƍ*aƇ_dƳ?aƍ_dƳ?aƇ_ʛXa<:_ʛrǜaƤȒ-ȮED _FROM rǜa<ǍɁ:ǍǂHARPOON,ǂ:ǍɁHARPOONaɁǍ:ǂǍ<HARPOON.<ǂǍ:HARPOONa<ǍɁ:ǍɁHARPOONaɁǍ:ǂǍ:HARPOONa<Ǎǂ:ǍǂHARPOONaɁǍ<ǂǍ<HARPOONaƍǔdǍɁɫɢaƇǔdǍɁɫɢaƤǔdǍ:ɫɢaƚǔdǍ:ɫɢaƍǔdǍǂɫɢaƇǔdǍǂɫɢaƤǔdǍ<ɫɢaƚǔdǍ<ɫɢaƍǔdǍɁȽaƇǔdǍɁȽaƤǔdǍ:ȽaƚǔdǍ:ȽaƍǔdǍǂȽaƇǔdǍǂȽaƤǔdǍ<ȽaƚǔdǍ<ȽaƍǔdǍɁ) ƍǔdǍˎaƤǔdǍ<BESIDE ƤǔdǍǆaƇǔdǍɁ) ƇǔdǍˎaƚǔdǍ<BESIDE ƚǔdǍǆaƍǔdǍɁ) ƇǔdǍUP%ǂ) ƇǔdǍˎaƇǔdǍɁ) ƍǔdǍUP&ǂ) ƍǔdǍˎaƍǔdǍɁ) ",
  "ǬDASH%ǂ? ǬDASHaƇǔdǍɁ) ǬDASH&ǂ? ǬDASHaƤǔdǍ<BESIDE ƚǔdǍǆaƚǔdǍ<BESIDE ƤǔdǍǆa:^_dˠȮaȟ@) Ƈ*aȅ Ǩ ) Ƈ*aƍ_) ȅ ǨaƇ_) ȅ Ǩlʊƴaǅ) ƍ*ĂFTWARDS _ʛȯaƪ) Ƈ*aSUBSET ) Ƈ*aƍ_ʛSUBSETaSUʍ) ƍ*a<FISH ȵa:FISH ȵaɁFISH ȵaǂFISH ȵaǹƋɢ DELIMITERaZ ˿SPOT(TYPE ʧa<Ɣɕƥa:Ɣɕƥa<Ɣǒa:ƔǒaZ ˿<IMAGE ƥ(:IMAGE ƥ(<BINDING ƥ(:BINDING ƥa<ǃƥ dȦa:ǃƥ dȦa<ǃƥ dTICK IN ʐ˯a:ǃƥ dTICK IN ȩ˯a<ǃƥ dTICK IN ȩ˯a:ǃƥ dTICK IN ʐ˯a<ǲƥ dʓa:ǲƥ dʓa<ARC ǅƥa:ARC ƪƥa^<ARC ƪƥz:ARC ǅƥa<ƗǦƥa:ƗǦƥaȗFENCEaƋZIGZAG ʄaMEASURED ǲOPENING ȶa:ǲȬNT dǤaMEASURED :ǲdʓaǲdS ˮāCUTE ANGLEaSPHERICAL ǲOPENING ȶhUPaƵANGLEaƦANGLEaǲdȦaƦǲdȦaɲǲOPENING UPpˎaMEASURED ǲdǴARM ENDING IN _ƏɁxǆĽȶĶǂxǆĿȶĶ:xUPĶ<xUPĶ:xˎĶ<xˎaƦEMPTY SETaEMPTY SET dOVERɢcrƸ)c:_)c<_)aƸdƘɢoD Ƌɢ.PARALLEL.Ʌʰ.PERPENDICULARo DIVIDED BY Ƙɢ xʐƺDIVIDED BY ƋɢzdSUPERIMPOSED XoD ANTICLOCKWISE-ˀDIVISION >aɁ_ʛǜaǌƔBULLET.BULLET.ȯ.Ȏo",
  " drƸɫTHE ǆuǐƘƜS ɫTHE ǆaǤD ʿǙSLASH.FALLING ǙSLASH.ɮ.rǜ$QUAREaǐJOINED ǤSāRIǲdƮ)eȦaS IN ƼaƼ dSERIFS AT BOTTOMa:Ƽ ) <Ƽa<Ƽ BESIDE ƋɢaƋɢ BESIDE :ƼaBOWTIE d<ƺȲu:ƺȲāLACK BOWTIEaƢd<ƺȲ(:ƺȲaƔHOURGLASSaƗHOURGLASSa<WIGGLY FENCEa:WIGGLY FENCEa<^WIGGLY FENCEa:^WIGGLY FENCEaINCOMPLETE INFINITYaTIE ƹINFINITYaINFINITY NEGATED dƋɢaȥ-ENDED MULTIMAPaǃdCONTOURED OUTʄaINCREASES ASaSHUFFLE ˚aȟ@xȸPARALLELt dȅ )aIDENTICAL ɫxȸPARALLELaGLEICH ɗKaTHERMODYNAMICaˎ-ƏƼ d<ƺȲ%:ƺȲaƗȼ dǂ*o˼aƔƸdǂ*aƗƸdǂ*aERROR-ɢRED ƔǤnƗǤnƔȼnƗȼnƔǜnƗǜaRULE-DELAYEDāEVERSE ʰ Ǩaʰ dOVERɢaɅʰ dƘƜaBIG ʰĄɅʰa^PLUSaǹPLUSaȱƏCURVED ǲƥaǆ-ƏCURVED ǲƥaTINYaMINYaN-ARY ǌƮǨeƳǨeƢǨoUNION Ǩ dʓvPLUSoǃɨ ǨnUNION ǨaǐʘxǨuʒǨaN-ARY ƢǨaMODULO ǐSUMaSUMMATION dʙaɾʙ ǨaFINITE PART ʙaʙ d^Ɯ$AVERAGE dSLASHaCIRCULATION FUNCTIONaǿINTEGRATIONaȍINTEGRATION dRECTANGULAR PATH AROUND POLEp",
  "SEMICIRCULAR PATH AROUND POLEkɆINCLUDING THE POLEaʙ AROUND A POINT ǨaQUATERNION ʙ Ǩaʙ dƍ_dǶeƢ>eɨeUNIONeOVERɢeȦaJOINaȤ<Ƽ ǨaZ ˿SCHEMA COMPOSITIONmPIPINGbROJECTIONaƳ@drƸ)cƧȰ )cȅ )cƮ?cȅ ?cSUBɉȒcƗƼaMINUS @dȿ )gƮ?gFALLING ʓSgʿʓSaƳ@IN <ƺǜn:ƺǜaVECTʒʒɠ ˚aɐ@dƮ)qȦaSEMIDIRECT ˚ dȩCLOSEDāMASH ˚aɐ@IN <ƺǜl:ƺǜaǌɐ@dƧȰaɐ@IN ^ǜaǌDIVISION >aƳ@IN ƼaMINUS @IN ƼāULTIPLICATION @IN ƼaINTERIʒ˚aǆHxINTERIʒ˚aZ ˿RELATIONAL COMPOSITIONaAMALGAMATION ʒCO˚aɨ dʓaUNION dMINUS >(OVERɢaɨ dOVERɢmʘANDaUNION dʘORo) ɨaɨ ) UNIONaUNION ) ɢ ) ɨaɨ ) ɢ ) UNIONaUNION BESIDE xJOINED dUNIONaɨ BESIDE xJOINED dɨaȖUNION dSERIFSzɨ dSERIFSa^ǃɨeUNIONaȖUNION dSERIFS xSMASH ˚aʘxdƮ).ʒdƮ)a^ʘANDcORaǐINTERSECTING ʘANDqORaSLOPING ȤOReANDaʘʒOVERLAPPING ʘAND.xdƖSTEM.ʒdƖSTEM.xdƘDASH.ʒdƘDASH.xd^OVERɢkȦk^ȦarVEE dȦaʘʒd^OVERɢlȦaZ ˿DOMAIN ANTIRESTRICTION(RANG",
  "E ANTIRESTRICTIONaȟ@dƮ?aIDENTICAL dƮ)aǹƘɢ d^ƋƜ!ǹƋƜāILDE Ǩ dƮ)jʿʓSaSIMILAR MINUS SIMILARaCONGRUENT dƮ)aȟdɮaʊƴ dƧȰāPPROXIMATELY EQUAL ʒƴaȟ@) Ƴ>aƳ@) ȟ>aȟ@) ȅ Ǩa^ʧ EQUALaǐCONSECUTɊ ȟ>Sāǘ CONSECUTɊ ȟ>Saȟ@dǐǗ) xǐǗ?ăIVALENT d~ Ǘ)aǅdƸˮaƪdƸˮaǅdȈ= )aƪdȈ= )aǅʒȸƴaƪʒȸƴaǅʒȸƴ dƮˮaƪʒȸƴ dƮˮaǅʒȸƴ dƮ)aƪʒȸƴ dƮ)aǅʒȸƴ dƮ) ǆaƪʒȸƴ dƮ) ȶaǅʒAPPROXIMATEaƪʒAPPROXIMATEaǅxȜ-ȍɆƴaƪxȜ-ȍɆƴaǅxɆAPPROXIMATEaƪxɆAPPROXIMATEaǅ) ȥ-ȍEQUAL ) Ȏaƪ) ȥ-ȍEQUAL ) ȯaǅ) SIMILAR ʒEQUALaƪ) SIMILAR ʒEQUALaǅ) SIMILAR ) Ȏaƪ) SIMILAR ) ȯaǅ) ƪ) ȥ-ȍEQUALaƪ) ǅ) ȥ-ȍEQUALaǅ) ȸEQUAL ) ƪ) ȸEQUALaƪ) ȸEQUAL ) ǅ) ȸEQUALaȸƴ ʒȯjȎjǅdƮˮjƪdƮˮaȥ-ȍƴ ʒȯhȎuȸƴ ʒȯtȎaSIMILAR ʒȯ(Ȏ.) ǅ) ȟ>eƪ) ȟ>a^NESTED ȯeȎeǅdȦaƪOVERLAPPING ȯnBESIDE ȯaǅȖBY CURVEaƪȖBY CURVEaǅȖBY CURVE ) ȸEQUALaƪȖBY CURVE ) ȸEQUALaɃER THANaəR THANaɃER THAN ʒƴaəR THAN ʒƴaȟ@dBUMPY )aʶ) Ȝ-ȍȟ>aʷ) Ȝ-ȍȟ>aʶ) Ȝ-",
  "ȍɆƴaʷ) Ȝ-ȍɆƴaʶ) ȟ>aʷ) ȟ>aʶ) Ɇƴaʷ) Ɇƴaʶ) ʊƴaʷ) ʊƴaʶ) Ɇʊƴaʷ) Ɇʊƴa^PRECEDESzSUCCEEDSaSUBSET dʓĂʍdʓĂBSET dƳ@?ĂʍdƳ@?ĂBSET dɐ@?Ăʍdɐ@?ĂBSET ǭʒƴ dƮ)Ăʍǭʒƴ dƮ)ĂBSET ǭ) ȟ>Ăʍǭ) ȟ>ĂBSET ǭ) ȅ ǨĂʍǭ) ȅ ǨĂBSET ǭ) ʊƴĂʍǭ) ʊƴĂBSET ǭ) ɆƴĂʍǭ) ɆƴāQUARE <ǴBOX Ǩz:ǴBOX ǨaȖSUBSET$PERSET$BSET ʒƴ$ʍʒƴaSUBSET ) SUPERSETĂʍ) SUBSETĂBSET ) SUBSETĂʍ) SUPERSET$BESIDE SUBSETgxJOINED BY ˃dSUBSETa˧ǭOPENING ɱaPITCHFORK dTEE TOPaTRANSVERSAL ɨaFORKINGaNONFORKINGaǽ<TACKoǂTACKoɁTACKaPERPENDICULAR dSaƋɢ ǹ:˾a^Ƌɢ <˾aƋɢ ^<˾a^Ƌɢ ^<˾aǬ˃FROM <MEMBER ǭ^ʚaǽǂTACK dOVERɢoɁTACK dȦe) ǽǂTACKa^ǂTACKzɁTACKzƜ Ɇ>aƦ^Ɯ Ɇ>aDOES ɆDIVIDE dƦNEGATION SLASHaƋȍdƸ)v?aǂTACK dƸ?aPARALLEL dƘƜeȅ ǨaǹƋɢ BINARY RELATIONjdƘƜzʧ ǨzNESTED ȯeȎaȥ-ȍȸǅʒƴjƪʒƴaǹʰ BINARY RELATIONaȤǹƋɢ Ǩa^ʰ ǨaƔƋɢaN-ARY ƔƋɢāORTH EAST Ɣ*oɵƔ*aǛƔ*oɵƔ*a<:Ɣ*ĄWARDS Ɨ*aƤƗ*aƚƗ*aȭƗ*oɵƗ*aǛƗ*oɵƗ*a<:Ɨ*aɁǂƗ*a",
  "Ƈ_dTIP ɱvUPWARDSaƍ_dTIP ɱqUPWARDSaǃdʐƺȲuȩƺȲuƾ:ǙƺȲuƷ<ǙƺȲaȼ d<ƺȲn:ƺȲnʐƺȲnȩƺȲāOTTED ǤaƗȤǤaƔȤǤaƗɹrǤaƔɹrǤaƗPENTAGONaƔPENTAGONoHEXAGONaƗHEXAGONaƘƗHEXAGONaƗȤǜoƿȼaƔƿȼaƗƿ˼aƔƿ˼aƗrȼu˼aƔr˼aƗƘELLIPSEaƔƘELLIPSEaƗƋELLIPSEaƔƋELLIPSEa<_drǜaƽƍ*Sa<_dǌPLUSāONG ƍSQUIGGLE *āEFTWARDS Ȓ-ȮED _dƋƜt^ƋƜ!Ƚfǹ˃*,_dȗSTEMfȵ dƋƜs^ƋƜ,Ȓ-ȮED _dȵĤ dƋƜĪ^ƋƜ,_ʛXaWAVE _ƏDIRECTLY ȶaȟ@) ƍ*aɅȅ Ǩ ) ƍ*aƍ_) ɅʊƴaƇ_ʛȎqSUPERSETaƍɾ*aƇɾ*āEVERSE ȅ Ǩ ) Ƈ*āIGHTWARDS _) Ʌʊƴaȅ Ǩ ) ƍ*aƍ_) ʊƴpɅȅ ǨaƇ_) Ʌȅ ǨaƚƌZIGZAG *aǽȸNORTH *oBACKȸ˰*aƔƿɗaƗrɗaƔrɗaƗǆ-ƏPENTAGONaƔǆ-ƏPENTAGONaƠȤǜoOVAL dOVAL ˮoƸdƸˮuuD SALTIREaȸNORTH _dǶED ȮaBACKȸ˰_dǶED ȵaȸNORTH _dƘȵaBACKȸ˰_dƘȵāENT _ƏƚTHEN NORTH EASTaǽBENT _ƏƚTHEN NORTH EASTaƍƌ*aƤƌ*aƇƌ*aƚƌ*a<:ƌ*aɁǂƌ*aȂƌ*oEAST ƌ*aǛƌ*oɵƌ*aƍƌ˙*aƤƌ˙*aƇƌ˙*aƚƌ˙*aɝƌǴƸ*aǿƌǴƸ*aƍƌ_ɫɢaƤƌ_ɫɢaƇƌ_ɫɢaƚƌ_ɫɢ#2B76aȂƌ_ɫɢoEAST ƌ_ɫɢaǛƌ_ɫɢoɵƌ_ɫɢaƍƌ_d^ƘƜaƤƌ_d^",
  "ƘƜaƇƌ_d^ƘƜaƚƌ_d^ƘƜaƘTAB KEYaƋTAB KEYaƍƌ_ƹƇƌ*aƤƌ_ƍǭƚƌ*aƇƌ_ƹƍƌ*aƚƌ_ƍǭƤƌ*aƍƌPAIRED *SaƤƌPAIRED *SaƇƌPAIRED *SaƚƌPAIRED *SaƍƗǌƔ*aƤƗǌƔ*aƇƗǌƔ*aƚƗǌƔ*aǿƌ:U-ʱ*+ȩU-ʱ*+<U-ʱ*+ʐU-ʱ*aRETURN ȶzǆaNEWȍȶ.ǆa~ ɭ*S CIRCLING ANTICLOCKWISEaƇƗ*#2B97aƝ ʅTYPE A ELECTRONICSaTǘ-D TOP-ɶED ƍǣ*Ȯ.ǆ-ɶED Ƥǣ*Ȯ.TOP-ɶED Ƈǣ*Ȯ.ȱɶED ƚǣ*ȮaƗƍǣ*ȮoƤǣ*ȮoƇǣ*Ȯoƚǣ*Ȯaƚƌ_dǬTIP ȶWARDSĮǆWARDSaƤƌ_dǬTIP ȶWARDSĬǆWARDSaƍƌ_dǬTIP UPWARDSaƇƌ_dǬTIP UPWARDSaƍƌ_dǬTIP ɱaƇƌ_dǬTIP ɱaƗCURVED ƚxƍ*!Ƈ*nƤxƍ*qƇ*nƍxƤ*nƇxƤ*nƍxƚ*nƇxƚ*aRIBBON _ǂȶmǆnɁȶgǆn<UPn:UPn<ˎn:ˎaƤƔ_Ƚ dƘɢĂ *Ȯ IN A RECTǲBOXaOVERLAPPING ƔǤSmxƗǤSuƗǤSaBALLOT BOX dǉXaǌX.ɺXaƗǃɑDoȼ ɑDaƵƗPENTAGONaƘƗOCTAGONaƗOCTAGONoƿUP-ƏƼ ɑDnˎ-ƏƼ ɑDnȱƏƼ ɑDnǆ-ƏƼ ɑDaNEPTUNE ʮȒaʐƺƗǜaȩƺƗǜaǉ~ ǮƗCUSPaˀǉ~ ǮƗCUSPaƔ~ ǮCUSPaˀƔ~ ǮCUSPaǃPOSITION INDICATORaUNCERTAINTY >aGROɁ=aPLUɫʮȒuǘ(~uɊaTRANSPLUTOaPROSERPINAaASTRAEAaHYGIEAaPHOL",
  "USaNESSUSaƔ˴SELENAaƗȼ ON ɠaTRUE ǉ˴ARTAaCUPIDOaHADESaZEUSaKRONOSaAPOLLONāDMETOSaVULCANUSaPOSEIDONa<ƺƗɗa:ƺƗɗaɗ d<ƺȲ,:ƺȲaƍȒ-ȮED _dƼ *ȮSaƤȒ-ȮED _dƼ *ȮSaƇȒ-ȮED _dƼ *ȮSaƚȒ-ȮED _dƼ *ȮSaERIS ʮ[,ȒaSEDNAaRUSSIAN ASTROʘƝ VIGINTILE%NOVILE%QUINTILE%BINOVILE%SENTAGON%TREDECILEaȟ@dINFINITY ?aUNITED ƝaSEPARATED ƝaȥD ƝaPASSED ƝaƦ:ANGLEaHELLSCHREIBER PAUSE ƝaGLAGOLITIC wiAZUvBUKYvVEDEvGLAGOLIvDOBROvYESTUvZHɊTEvDZELOvZEMLJAvIZHE!NITIAL IZHE!vDJERVIvKAKOvLJUDIJEvMYSLITEvNASHIvONUvPOKOJIvRITSIvSLOVOvTVRIDOvUKUvFRITUvHERUvOTUvPEvSHTAvTSIvCHRIVIvˈvYERU&I!ATIvSPIDERY HAvYUvrYUSģ dȵvYOvIOTATED rYUSv˖vIOTATED ˖vFITAvIZHITSAvSHTAPICvTROKUTASTI AvLATINATE MYSLITEvCAUDATE CHRIVI(riAZUhBUKYhVEDEhGLAGOLIhDOBROhYESTUhZHɊTEhDZELOhZEMLJAhIZHEqNITIAL IZHEqhDJERVIhKAKOhLJUDIJEhMYSLITEhNASHIhONUhPOKOJIhRITSIhSLOVOhTVRIDOhUKUh",
  "FRITUhHERUhOTUhPEhSHTAhTSIhCHRIVIhˈhYERU!IqATIhSPIDERY HAhYUhrYUS; dȵhYOhIOTATED rYUSh˖hIOTATED ˖hFITAhIZHITSAhSHTAPIChTROKUTASTI AhLATINATE MYSLITEhCAUDATE CHRIVIaǱwiL d^ɢoriL d^ɢowiL dƖȅfP dƜfR dȵoriA dƜbT dǙƜowiH dǑoriH dǑowiK dǑoriK dǑowiZ dǑoriZ dǑowiʽfM dǶfƵA&LPHAoriV d:ǶowiW dǶoriW dǶbV dCURLowiƺHoriƺHbȵLESS PHIbE dNOTCHbƵR dȵbO dǾȆˮoirwƵEoSUBɉriJaȊiwVaǱwiS dSWASH ȵfZ dSWASH ȵaCOPTIC wiALFAzriALFAzwiVIDAzriVIDAzwiʾzriʾzwiDALDAzriDALDAzwiEIEzriEIEzwiSOUzriSOUzwiZATAzriZATAzwiHATEzriHATEzwiTHETHEzriTHETHEzwiIAUDAzriIAUDAzwiKAPAzriKAPAzwiLAULAzriLAULAzwiMIzriMIzwiNIzriNIzwiKSIzriKSIzwiOzriOzwiPIzriPIzwiROzriROzwiSIMAzriSIMAzwiTAUzriTAUzwiUAzriUAzwiFIzriFIzwiKHIzriKHIzwiPSIzriPSIzwiOOUzriOOUzwi˒ALEFzri˒ALEFzwiȃAINzriȃAINzwiɜEIEzriɜEIEzwi˒KAPAzri˒KAPAzwi˒NIzri˒NIzwiɜNIzriɜNIzwiȃOOUzriȃOO",
  "UzwiSAMPIzriSAMPIzwiɠED SHEIzriɠED SHEIzwiȃSHEIzriȃSHEIzwiȃESHzriȃESHzwiAKHMIMIC KHEIzriAKHMIMIC KHEIzwi˒HORIzri˒HORIzwiȃHORIzriȃHORIzwiȃHAzriȃHAzwiL-ʱHAzriL-ʱHAzwiȃHEIzriȃHEIzwiȃHATzriȃHATzwiȃGANGIAzriȃGANGIAzwiȃDJAzriȃDJAzwiȃSHIMAzriȃSHIMAzwiʜSHIMAzriʜSHIMAzwiʜNGIzriʜNGIzwiʜNYIzriʜNYIzwiʜWAUzriʜWAU.YMBOL KAIeMI ROePI ROeSTAUROSeTAU ROeKHI ROeSHIMA SIMAzwiɜSHEIzriɜSHEIzwiɜGANGIAzriɜGANGIAzǋNI )kSPIRITUS ASPERvLENIS.APITAL iBOHAIRIC KHEIzriBOHAIRIC KHEI#2CF9zʜǈmDIRECT Ȉ=mINDIRECT Ȉ=mVERSE DIVIDERzȴ[ HALF.ULL STOPzMORPHOʘDIVIDERaGEORGIAN riANpBANpGANpDONpENpVINpZENpTANpINpKANpLASpMANpNARpONpPARpZHARpRAEpSANpTARpUNpPHARpKHARpGHANpQARpSHINpCHINlANpJILpCILlHARpXANpJHANpHAElElIEpWEpHARlOE#2D27pYN#2D2DpAEN#2D30aTIFINAGH iYAmBbHmGbHHgBERBER ACADEMY YAJgYAJmDbHbDjHkEYkAFmKgTUAREG YAKgYAKHHmHgBERBE",
  "R ACADEMY YAHgTUAREG YAHgYAHHmAmKHgTUAREG YAKHgYAQgTUAREG YAQgYIkAZHgAHAGGAR YAZHgTUAREG YAZHgYALmMmNgTUAREG YAGNqNGgYAPkUkARbRmGHgTUAREG YAGHgAYER YAGHgYASbSbHmTbHmCHmTTmVmWmYmZgTAWELLEMET YAZgYAZZkEkO#2D6F$ȊiLABIALIZATION =$ȡ =#2D7F$ȌJOINERaETHIOPIC ɏLOAmMOAmROAmSOAbHOAmBOAmTOAmCOAmNOAbYOAmȓOAmZOAmDOAbDOAmJOAmTHOAmCHOAmPHOAbOAmGGWAfIfEEp#2DA0mSSAjUjIjAAjEEfjO#2DA8mCCAjUjIjAAjEEfjO#2DB0mZZAjUjIjAAjEEfjO#2DB8mCCHAfUfIfAAfEEpfO#2DC0mQYAjUjIjAAjEEfjO#2DC8mKYAjUjIjAAjEEfjO#2DD0mXYAjUjIjAAjEEfjO#2DD8mGYAjUjIjAAjEEfjO#2DE0aǋʡiBEvVEvGHEvDEvZHE!EvKAvEL!M!NvOvPEvER!SvTEvHAvTSEvCHEvˈ%CHAvFITAvES-TEvAvIEvDJERVvMONOGRAPH UKvYAT!UvɎAvȝYUSv˖vɎ˖a:ǲ˜=ERuȗ˜=ERa<˜ƥa:˜ƥa<ȗ˜ƥa:ȗ˜ƥāAISED INTERPOLATION =ERzȗINTERPOLATION =ERaȗTRANSPOSITION =ERa<TRANSPOSITION ƥa:TRANSPOSITION ƥāAISED Ǥa<ɖOMISSION ƥa:ɖOMISSION ƥ",
  "aEDITORIAL CORONISaPARAGRAPHOSaFORKED PARAGRAPHOSaƦFORKED PARAGRAPHOSaHYPODIASTOLEaȗOBELOSĂWNWARDS ANCORAaƤANCORAaȗǆ-ƏANGLEĂUBLE ɲHYPHENaƭINTERROBANGaPALM BRANCHaHYPHEN dƶaȅ dȆ)a<ǾPARAPHRASE ƥa:ǾPARAPHRASE ƥaȅ dƮ)c?a<Ƌɢ dQUILLa:Ƌɢ dQUILLaʐ<ƺƥĄ:ƺƥaȩ<ƺƥz:ƺƥa<ˌU ƥa:ˌU ƥa<^ǒa:^ǒaǐǗƹ[ ƮȔa[ ƮƹǐǗȔaǤD ~ ƮȔaȠƮ=aƦȈ=aƋȅaȆPOINTaWORD ȡ ƖʓaƵȿaɖʓzȿaƵSEMIʧaDAGGER d<GUARDu:GUARDaƵDAGGERāOP ƺɣ>āWO-EM DASHāǘ-EM DASHaSˬOGRAPHIC ǈaƋɌ ʓSaWIGGLY ƋʄaCAPITULUMa^HYPHENaƦȿa^LOW-REVERSED-9 Ǣ=āASH d<UPTURNāOUBLE SUSPENSION =aƭǾKAVYKAb dKAVYKA )aǾKAVYKA, dʓa^STACKED ȿĂTTED ʰaǹDAGGERaMEDIEVAL ȿaPARAGRAPHUS =āUNCTUS ELEVATUS =aCORNISH VERSE DIVIDERāROSS PATTY d:ɠɢk<ɠɢaTIRONIAN @wETaMEDIEVAL ǧ=$Ȉ=a<ǃƥ dƜa:ǃƥ dƜa<ǃƥ d^Ɯa:ǃƥ d^Ɯaʐƺ<ǒ$:ǒaȩƺ<ǒu:ǒaɲHYPHEN#2E80aCJK RADICAL REPEATuCLIFFuSECOND [bȒjǘuPERSONuBOXuTABLEuKNIFE [mȒuDI",
  "VINATIONuSEALnMALL [mȒuLAME [kȒmǘk~uSNAKEuTHREADuSNOUT [mȒuHEART [mȒnANDuRAP#2E9BuCHOKEuSUNuMOONuDEATHuMOTHERuCIVILIANuWATER [mȒuFIREuPAW [gȒuǻƺTREE TRUNKuCOWuDOGuJADEuBOLT ǭCLOTHuEYEuSPIRIT [bȒuBAMBOOuSILKuC-ǻSILKuNET [gȒkǘg~uMESHuSHEEPuRAMuEWEuOLDuBRUSH [mȒuMEATnORTARuGRASS [mȒbǘuTIGERuCLOTHESuɵ[kȒuC-ǻSEEuǻHORNuHORNuC-ǻSPEECHvHELLuFOOTuC-ǻCARTuǻWALKuWALK [kȒuCITYn-ǻGOLDuǬ[kȒuC-ǻLONGqGATEuMOUND [mȒuRAINuBLUEuC-ǻTANNED LEATHERqLEAFqWINDqFLYuEAT [gȒkǘuC-ǻEATuȮuC-ǻHORSEuB[uGHOSTuC-ǻFISHqBIRDqSALTuǻWHEATlYELLOWuC-ǻFROGuJ-ǻǩuC-ǻǩuJ-ǻTOOTHuC-ǻTOOTHuJ-ǻDRAGONuC-ǻDRAGONuTURTLEuJ-ǻTURTLEuC-ǻTURTLE#2F00aKANGXI RADICAL [cʄcʓcSLASHgECONDcǶcȒcLIDcMANcLEGScENTERgIGHTcǂBOXcCOVERcICEcTABLEcǴBOXcKNIFEcPOWERcWRAPcSPOONc:ǴBOXcHIDING ENCLOSUREcˬcDIVINATIONcSEALcCLIFFcPRIVATEcAGAINcMOUTHcENCLOSUREgARTHcSCHOLA",
  "RcGOk SLOWLYcǩINGcBIGcWOMANcCHILDcROOFcINCHcɃcLAMEcCORPSEcSPROUTcMOUNTAINcRɊRcWORKc[SELFcTURBANcDRYcǽTHREADcȗCLIFFcǬSTRIDEcǐHANDScSHOOTcBOWcSNOUTcBRISTLEcSTEPcHEARTgALBERDcDOORcHANDcBRANCHcRAPcSCRIPTcDIPPERcAXEcǤcNOTcSUNgAYcMOONcTREEcLACKcSTOPcDEATHcWEAPONcDO NOTcCOMPAREcFURcCLANcSTEAMcWATERcFIREcCLAWcFATHERc^XcƺTREE TRUNKcSLICEcFANGcCOWcDOGcPROFOUNDcJADEcMELONcTILEcSWEETcLIFEcUSEcFIELDcBOLT ǭCLOTHcSICKNESScȗˬTcWHITEcSKINcDISHcEYEcSPEARc*cST[gPIRITcTRACKcGRAINcCAVEcSTANDcBAMBOOcRICEcSILKcJARcNETcSHEEPcFEATHERcOLDcANDcPLOWcEARcBRUSHcMEATgINISTERcSELFcARRɊcMORTARcTONGUEcOPPOSEcBOATcSTOPPINGcCOLORcGRASScTIGERcINSECTcBLOODcWALK ENCLOSUREcCLOTHEScWESTcSEEcHORNcSPEECHcVALLEYcBEANcPIGcBADGERcSHELLcREDgUNcFOOTcBODYcCARTcBITTERcMORNINGcWALKcCITYcWINEcDISTINGUISHcVILLAGEcGOLDcLONGcGATEcMOUNDcSLAVEgH",
  "ORT ȵED BIRDcRAINcBLUEcWRONGcȏcLEATHERcTANNED LEATHERcLEEKcSOUNDcLEAFcWINDcFLYcEATcȮcFRAGRANTcHORSEcB[cTALLcHAIRcFIGHTcSACRIFICIAL WINEcCAULDRONcGHOSTcFISHcBIRDcSALTcDEERcWHEATcHEMPcYELLOWcMILLETcȲcEMBROIDERYcFROGcTRIPODcDRUMcRATcNOSEcǩcTOOTHcDRAGONcTURTLEcFLUTE#2FF0aȪDESCRIPTION ɽ<ɫǆy) ɫ?y<ɫƖxǆy) ɫƖx?yFULL SURROUNDySURROUND FROM )İ?İȶİƾȶĶǆİƷȶyOVERLAID#3000uʻuȿuǈaDITɫ=aJAPANESE INDUSTRIAL STANDARD ƝaȪʝ=uCLOSING =uǇZEROa<ǲƥa:ǲƥa<^ǲƥa:^ǲƥa<ɭƥa:ɭƥa<Ɣɭƥa:Ɣɭƥa<Ɨʞƥa:ƗʞƥaPOSTAL =aGETA =a<Ǧƥa:Ǧƥa<Ɣʞƥa:Ɣʞƥa<ƔǦƥa:ƔǦƥa<Ɣǃƥa:ƔǃƥaWAVE DASHaƦ^PRIME Ǣ=a^PRIME Ǣ=aǾ^PRIME Ǣ=aPOSTAL = ȏaHANGZHOU ˟[kȒmǘk~mɊkɌmǩkǄkǰaȪLEVEL T[ =uʿT[ =uDEPARTING T[ =uENTEȆT[ =aHANGUL Ȝ ƮT[ =z^ƮT[ =aWAVY DASHaƋKANA REPEAT =fdʂ=f= ƾHALFfdʂ= ƾHALFf= ƷHALFaǌPOSTAL =aȪTELEGRAPH ȍFEED ȡ ƝaHANGZHOU ˟ˬmɷmHIRTYaƋȪʝ=aMASU =aPART ALTERNAT",
  "ION =aȪȬTION INDICATORuƺFILL ʻ#3041aʸirAgAgrIgIgrUgUgrEgEgrOgOgKAgGAgKIgGIgKUgGUgKEgGEgKOgGOgSAgZAgSIgZIgSUgZUgSEgZEgSOgZOgTAgDAgTIgDIgrTUgTUgDUgTEgDEgTOgDOgNAkIkUkEkOgHAgBAgPAgHIgBIgPIgHUgBUgPUgHEgBEgPEgHOgBOgPOgMAkIkUkEkOgrYAgYAgrYUgYUgrYOgYOgRAkIkUkEkOgrWAgWAkIkEkOgNgVUgrKAlE#3099aǋKATAKANA-ʸʂ=%SEMI-ʂ=aKATAKANA-ʸʂ=mSEMI-ʂ=aʸʝ=$VOICED ʝ=$ʈ YORIaKATAKANA-ʸ^HYPHEN. irAgAgrIgIgrUgUgrEgEgrOgOgKAgGAgKIgGIgKUgGUgKEgGEgKOgGOgSAgZAgSIgZIgSUgZUgSEgZEgSOgZOgTAgDAgTIgDIgrTUgTUgDUgTEgDEgTOgDOgNAkIkUkEkOgHAgBAgPAgHIgBIgPIgHUgBUgPUgHEgBEgPEgHOgBOgPOgMAkIkUkEkOgrYAgYAgrYUgYUgrYOgYOgRAkIkUkEkOgrWAgWAkIkEkOgNgVUgrKAlEgVAkIkEkO$Ɩʓ.-ʸPROLONGED SOUND =. ʝ=$VOICED ʝ=$ʈ KOTO#3105aBOPOMOFO iBgPgMgFgDgTgNgLgGgKgHgJgQgXgZHgCHgSHgRgZgCgSgAgOgEkHgAIgEIgAUgOUgANgENgANGgENGkRgIgUgIUgVgNGgGNgIHgO dƮ)gNN#3131aHANGUL i",
  "ȻeʩȻeȻ-ʨe˳b-ʪjɬeɘeʩɘeˤb-Ȼjˣjɳjʨjɦjʤjɬeˣeɳeʩɳeɳ-ʨeʨcSANGʨeIEUNGeʪeʩʪeCHIEUCHeʣeɦeʤeɬeAcEeYAgEeEOceYEOgeOeWAgEeOEeYOeUeWEOgcIeYUeEUeYIeIzFILLERziʩ˳e˳-ɘjʨjPANʨeˤ-Ȼ-ʨjɘjɳ-ʨfANʨjYEORINɬeˣ-ɳjʨjPANʨeˢˣeɳ-Ȼjɘjʨ-Ȼqɘjʪjɦeˢɳpʩɳeʨ-Ȼb˳bɘbɳbʪePANʨeʩIEUNGeYESIEUNGp-ʨlPANʨeˢʤeʩɬeYEORINɬcO-YAbEkIcU-YEObkIeARAEAbE#3190aȪAN˿LINKING =lɅ=l[ =lǐ=hǘ =l~ =lʐ=lƖ=lȩ=lFIRST =lSECOND =lTHIRD =l~TH =lHEAVEN =lEARTH =lMAN =aBOPOMOFO iBUgZIgJIgGUgEEkNNgOOkNNgIRgANNgINNgUNNgIMgNGGgAINNkUNNkMgOMkNGgINNN$ǫiPpTpKpH$iGHgLHgZY$ǫiG$iGWgKWgOEgAHaCJK Ɯ T(WG(XG(BXG(SW(HZZnGuPuZWG(SZWG(HZTnZPuPWGuZWnZZ(N(H(S(P(SP(D(HZuG(SZuWZuTuG(PDuZ(TN(SZZuWG(HXWGuZZZG(PG(Q#31F0aKATAKANA irKUpSIlUpTOpNUpHAlIlUlElOpMUpRAlIlUlElOaPARENTHESIZED HANGUL Ȼf˳fɘfˤfˣfɳfʨfIEUNGfʪpHIEUCHfʣfɦfʤfɬfȻ Af˳ Afɘ Afˤ Afˣ Afɳ Afʨ AfIEUNG Afʪ ApHIEUCH Afʣ Afɦ Afʤ Af",
  "ɬ Afʪ UeKOREAN ɽOJEONt HU#3220eIDEOGRAPH [hȒqǘh~qɊhɌqǩhǄhǰhˬhMOONhFIREhWATERqOODhMETALhEARTHhSUNqTOCKhHAVEhSOCIETYhNAMEhSPECIALhFINANCIALhCONGRATULATIONhLABORhREPRESENThCALLhSTUDYqUPERVISEhENTERPRISEhRESOURCEhALLIANCEhFESTIVALhRESThSELFhREACHaǌIDEOGRAPH QUESTIONmKINDERGARˬmSCHOOLmKOTO.Ǉˬ ON ƗǤgɷ ON ƗǤgHIRTY ON ƗǤcFORTY ON ƗǤgIFTY ON ƗǤcɌTY ON ƗǤgǩTY ON ƗǤcǄY ON ƗǤaPARTNERSHIP >aǌǇTɷ [pȒlǘp~lɊpɌlǩpǄpǰgHIRTYf [pȒlǘp~lɊ.HANGUL Ȼc˳cɘcˤcˣcɳcʨcIEUNGcʪgHIEUCHcʣcɦcʤcɬcȻ Ac˳ Acɘ Acˤ Acˣ Acɳ Acʨ AcIEUNG Acʪ AgHIEUCH Acʣ Acɦ Acʤ Acɬ A.KOREAN ɽCHAMKOqJUEUI.HANGUL IEUNG UaKOREAN STANDARD ƝaǌIDEOGRAPH [mȒbǘm~bɊmɌbǩmǄmǰmˬmMOONmFIREmWATERbOODmMETALmEARTHmSUNbTOCKmHAVEmSOCIETYmNAMEmSPECIALmFINANCIALmCONGRATULATIONmLABORmSECRETmMALEmFEMALEmSUITABLEmEXCELLENTmPRINTmATˬTIONmITEMmRESTmCOPYjRRECTmHIGHmɑmLOWbEFT",
  "mǆmMEDICINEmRELIGIONmSTUDYbUPERVISEmENTERPRISEmRESOURCEmALLIANCEmNIGHT.ǇTHIRTY ɌlǩpǄpǰcFORTYj [fȒpǘf~pɊfɌpǩfǄfǰgIFTYaȪTELEGRAPH Ɲ ʅJANUARY;FEBRUARY;MARCH;APRIL;MAY;JUNEģLY;AUGUST;SEPTEMBER;OCTOBER;NOVEMBER;DECEMBERaǃHGzERG.VaLIMITED LIABILITY >aǌKATAKANA AkIkUkEkOkKAmImUmEmOkSAmImUmEmOkTAmImUmEmOkNAmImUmEmOkHAmImUmEmOkMAmImUmEmOkYAmUmOkRAmImUmEmOkWAmImEmOaǃERA NAME REIWAzAPAATO.RUHUA.NPEA.ARUzININGU$TIzUONzESUKUUDO.EKAAzONSU.OMUzKAIRI$RATTO,ORIIzGARON$NMA.IGA$NIIzKYURIIzGIRUDAAzKIRO(GURAMU(MEETORU(WATTOzGURAMUnTONzKURUZEIRO,O[.EESU.ORUNA$OPOzSAIKURU$NTIIMU.IʏU.ENTI(OzDAASU.ESI.ORUzTONzNANO.OTTOzHAITUzPAASENTO,TUzBAARERUzPIASUTORU$KURU,OzBIRUzHUARADDO$IITOzBUSSYERUzHURAN.EKUTAARUzPESO$NIHIzHERUTUzPENSU$EZIzBEETAzPOINTOzBORUTOzHONzPONDOzHOORU,NzMAIKURO,RU$HHA$RUKU$NSYON.IKURON$RI(BAARU.EGA(T",
  "ON$ETORUzYAADO,RU.UANzRITTORU$RA.UPII$UBURU.EMU$NTOGENzWATTOaȪTELEGRAPH Ɲ ʅHOUR ZEROĦ[ĦȒħǘĦ~ħɊĦɌħǩĦǄĦǰĦˬĦELǩĦTWELVEħHIRˍĦ~ˍħIFˍĦɌˍħǩˍĦǄEENĦǰˍĦTɷĬ-[ĭȒĮǘĭ~aǃHPAzDAzAUzɢzOVzPCzDM$ ǤD,CUBEDzIUzERA NAME HEISEIgSYOUWAgTAISYOUgMEIZIzCORPORATIONzPA AMPSzNAzMU A.AzKA.BzMBzGBzCALzKCALzPFzNFzMU F,G.GzKGzHZzKHZzMHZzGHZzTHZzMU L.LzDLzKLzFMzNMzMU M.MzCMzKMzMM ǤDzCM ǤDzM ǤDzKM ǤDzMM CUBEDzCM CUBEDzM CUBEDzKM CUBEDzM ƹSc ǤDzPAzKPAzMPAzGPAzRAD, ƹSk ǤDzPSzNSzMU S.SzPVzNVzMU V.VzKVzMV MEGAzPWzNWzMU W.WzKWzMW MEGAzK OHMzM OHMzAMzBQzCC.D. ƹKG.OzDBzGYzHA.PzINzKK.M CAPITAL.TzLM.N.OG.XzMB Ƀ.IL.OLzPH.M.PM.RzSR.VzWBzV ƹMzA ƹMaȪTELEGRAPH Ɲ ʅDAY [ĥȒĦǘĥ~ĦɊĥɌĦǩĥǄĥǰĥˬĥELǩĥTWELVEĦHIRˍĥ~ˍĦIFˍĥɌˍĦǩˍĥǄEENĥǰˍĥTɷī-[ĬȒĭǘĬ~ĭɊĬɌĭǩĬǄĬǰĦHIRTYī-[aǃGAL#4DC0aHEXAGRAM ʅTHE CREATɊ HEAVENkRECEPTɊ EARTHnDIFFICULTY AT THE BEGINNINGnYOUTHF",
  "UL FOLLYnWAITINGnCONFLICTnTHE ARMYnHOLDING TOGETHERnrTAMINGnTREADINGnPEACEnSTANDSTILLnFELLOWSHIPnGREAT POSSESSIONnMODESTYnENTHUSIASMnFOLLOWINGnWORK ON THE DECAYEDnAPPROACHnCONTEMPLATIONnBITING THROUGHnGRACEnSPLITTING APARTnRETURNnINNOCENCEnGREAT TAMINGnMOUTH ˯SnGREAT PREPONDERANCEnTHE ABYSMAL WATERkCLINGING FIREnINFLUENCEnDURATIONnRETREATnGREAT POWERnPROGRESSnDARKENING ǭTHE ɶnTHE FAMILYnOPPOSITIONeBSTRUCTIONnDELɊRANCEcCREASEnINCREASEnBREAKTHROUGHnCOMING ɫMEETnGATHEȆTOGETHERnPUSHING UPWARDnOPPRESSIONnTHE WELLnREVOLUTIONnTHE CAULDRONkAROUSING THUNDERkKEEPING STILL MOUNTAINnDEVELOPMENTnTHE MARRYING MAIDENnABUNDANCEnTHE WANDERERkGENTLE WINDkJOYOUS LAKEnDISPERSIONnLIMITATIONnINNER TRUTHnrPREPONDERANCEnAFTER COMPLETIONnBEFORE COMPLETION#A000aYI ɏITnXnnPnETeXeePuATnXnnPuUOXeePuOTnXnnPuEXnuWUuBITe",
  "XeePeETcXccPnATeXeePnUOXccPnOTeXeePnEXeePnUTeXeePeRXcnYTeXeePeRXcuPITeXeePeEXccPnATeXeePnUOXccPnOTeXeePnUTeXeePeRXcnYTeXeePeRXcuBBITcXccPcETgXggPeATcXccPeUOXggPeOTcXccPeEXccPeUTcXccPcRXgeYTcXccPuNBITcXccPcEXggPeATcXccPeOTcXccPeUTcXccPcRXgeYTcXccPcRXguHMITcXccPcEXggPeATcXccPeUOXggPeOTcXccPeUTcXccPcRXgeYXccPcRXguMITeXeePeEXccPnATeXeePnUOTcXccPnOTeXeePnEXenUTeXeePeRXcnYTeXeePuFITeXeePnATeXeePnOXeePnUTeXeePeRXcnYTeXeePuVITeXeePeETcXccPnATeXeePnOTeXeePnEXePnUTeXeePeRXcnYTeXeePeRXcuDITeXeePeEXccPnATeXeePnUOXcnOTeXeePnEXeePnUTeXeePeRXcuTITeXeePeEXccPnATeXeePnUOTcXccPnOTeXeePnEXeePnUTeXeePeRXcuDDITcXccPcEXggPeATcXccPeUOXggPeOTcXccPeEXccPeUTcXccPcRXguNDITcXccPcEXgeATcXccPeOTcXccPeEXccPeUTcXccPcRXguHNITcXccPcETgXggPeATcXccPeUOXgeOTcXcPeEXccPeUTuNITeXeePeEXccPnAXeePnUOXccPnOTeXeePnEXeePnUTeXeePeRXcuH",
  "LITcXccPcEXggPeATcXccPeUOXggPeOXccPeEXccPeUTcXccPcRXgeYTcXccPcRXguLITeXeePeETcXccPnATeXeePnUOTcXccPnOTeXeePnEXeePnUTeXeePeRXcnYTeXeePeRXcuGITeXeePeETcXccPnATeXeePnUOTcXccPnOTeXeePnETeXeePnUTeXeePeRXcuKITeXeePeEXccPnATeXeePnUOXccPnOTeXeePnETeXeePnUTeXeePeRXcuGGITcXccEXggPeATcXccPeUOTgXggPeOTcXccPeETcXccPeUTcXccPcRXguMGIEXgeATcXccPeUOXggPeOTcXccPeEXccPeUTcXccPcRXguHXITcXccPcETgXggPeATcXccPeUOTgXggPeOTcXccPeEXccPuNGIEXggPeATcXccPeUOTgXgeOTcXccPeEXccPuHITeEXcnATeXeePnUOTcXccPnOTeXeePnEXeePuWATeXeePnUOXccPnOXeePnEXeePuZITeXeePeEXccPnATeXeePnUOXccPnOTeXeePnEXeePnUTeXeePeRXcnYTeXeePeRXcuCITeXeePeETcXccPnATeXeePnUOXccPnOTeXeePnEXeePnUTeXeePeRXcnYTeXeePeRXcuZZITcXccPcETgXggPeATcXccPeOXccPeEXccPeUXccPcRXgeYTcXccPcRXguNZITcXccPcEXggPeATcXccPeUOXgeOXcPeEXceUXccPcRXgeYTcXccPcRXguSITeXeePeEXccPnATeXeePn",
  "UOXccPnOTeXeePnEXeePnUTeXeePeRXcnYTeXeePeRXcnSITcXccPcEXggPeATcXccPeOTcXccPeEXccPeUTcXccPeYTcXccPcRXguZHATcXccPeUOXggPeOTcXccPeETcXccPeUTcXccPcRXgeYTcXccPcRXguCHATcXccPeUOTgXggPeOTcXccPeETcXccPeUXccPcRXgeYTcXccPcRXguRRAXceUOXgeOTcXccPeETcXccPeUTcXccPcRXgeYTcXccPcRXguNRATcXccPeOXccPeETcXccPeUTcXccPcRXgeYTcXccPcRXguˈTcXccPeUOXggPeOTcXccPeETcXccPeUTcXccPcRXgeYTcXccPcRXguRATeXeePnUOXccPnOTeXeePnEXeePnUTeXeePeRXcnYTeXeePeRXcuJITeXeePeETcXccPnUOTcXccPnOTeXeePnUTeXeePeRXcnYTeXeePeRXcuQITeXeePeETcXccPnUOTcXccPnOTeXeePnUTeXeePeRXcnYTeXeePeRXcuJJITcXccPcETgXggPeUOXggPeOTcXccPeUTcXccPcRXgeYTcXccPuNJITcXccPcETgXggPeUOXgeOTcXccPeUXccPcRXgeYTcXccPcRXgnYITcXccPcETgXggPeUOXggPeOTcXccPeUTcXccPuXITeXeePeETcXccPnUOXcnOTeXeePnYTeXeePeRXcuYITeXeePeETcXccPnUOTcXccPnOTeXeePnUTeXeePeRXcnYTeXeePeRXc#A490ăRADICAL Q",
  "OT(LI(KIT(NYIP(CYP(SSI(GGOPuEP(MI(HXIT(LYR(BBUT(MOP(YO(PUT(HXUO(TAT(GA(ZUP(CYT(DDUR(BUR(GGUO(NYOP(TU(OP(JJUT(ZOT(PYT(HMO(YIT(VUR(SHY(VEP(ZA(JO(NZUP(JJY(GOT(JJIE(WO(DU(SHUR(LIE(CYuUOPuIP(HXOP(ˈT(ZUR(SHOP(CHE(ZZIET(NBIE(KE#A4D0aLISU iBAuPAnHAuDAuTAnHAuGAuKAnHAuJAuCAnHAuDZAuTSAeHAuMAuNAuLAuSAuZHAnAuʭuHAuXAuHHAuFAuWAuˈuYAuGHAuAnEuEnUuIuOuUnEnHuOEuT[ MYA TIkNA POkMYA CYAfBOfNAfJEUąǸȿkǈaVAI ɏEEcNnHEEnWEEgNnPEEnBHEEeEEnMBEEnKPEEnMGBEEnGBEEnFEEnVEEnTEEeHEEnDHEEcHEEnLEEnREEnDEEnNDEEnSEEeHEEnZEEeHEEnCEEnJEEnNJEEnYEEnKEEnNGGEEnGEEnMEEnNEEeYEEnIeNnHIcNnWIcNnPInBHIeInMBInKPInMGBInGBInFInVInTIeHInDHIcHInLInRInDInNDInSIeHInZIeHInCInJInNJInYInKInNGGInGInMInNIeYInAeNnʭNnHAcNnWAcNnPAnBHAeAnMBAnKPAgNnMGBAnGBAnFAnVAnTAeHAnDHAcHAnLAnRAnDAnNDAnSAeHAnZAeHAnCAnJAnNJAnYAnKAcNnNGGAnGAnMAnNAeYAnOOcNnHOOnWOOgNnPOOnBH",
  "OOeOOnMBOOnKPOOnMGBOOnGBOOnFOOnVOOnTOOeHOOnDHOOcHOOnLOOnROOnDOOnNDOOnSOOeHOOnZOOeHOOnCOOnJOOnNJOOnYOOnKOOnNGGOOnGOOnMOOnNOOeYOOnUeNnHUcNnWUcNnPUnBHUeUnMBUnKPUnMGBUnGBUnFUnVUnTUeHUnDHUcHUnLUnRUnDUnNDUnSUeHUnZUeHUnCUnJUnNJUnYUnKUnNGGUnGUnMUnNUeYUnOeNnNGONnHOcNnWOcNnPOnBHOeOnMBOnKPOnMGBOnGBOgNnFOnVOnTOeHOnDHOcHOnLOnROnDOnNDOnSOeHOnZOeHOnCOnJOnNJOnYOnKOnNGGOnGOnMOnNOeYOnEeNnNGENnHEcNnWEcNnPEnBHEeEnMBEnKPEgNnMGBEnGBEgNnFEnVEnTEeHEnDHEcHEnLEnREnDEnNDEnSEeHEnZEeHEnCEnJEnNJEnYEnKEnNGGEkNnGEcNnMEnNEeYEeGnLENGTHENERĄȿĄǈĄȈ=ĄɏNDOLE FAbKAbSOOoMBOL FEENG(KEENG(TING(NII(BANG(FAA(TAA(DANGuOONG(KUNG(TONG(DO-O(JONGĄƣ,[,Ȓ(ǘ,~(Ɋ,Ɍ(ǩ,Ǆ,ǰĄɏNDOLE MAbDO#A640aʡwiZEMLYA$riZEMLYA$wiDZELO$riDZELO$wiƦDZE$riƦDZE$wiIOTA$riIOTA$wiDJERV$riDJERV$wiMONOGRAPH UK$riMONOGRAPH UK$wiBROAD ʉ$riBROAD ʉ$wiʀYER$riʀYER$wiYERU dBACK Y",
  "ER$riYERU dBACK YER$wiɎYAT$riɎYAT$wiƦYU$riƦYU$wiɎA$riɎA$wiȖȝYUS$riȖȝYUS$wiBLENDED YUS$riBLENDED YUS$wiɎȖȝYUS$riɎȖȝYUS$wiYN$riYN$wiƦTSE$riƦTSE$wiSOFT DE$riSOFT DE$wiSOFT EL$riSOFT EL$wiSOFT EM$riSOFT EM$wiMONOCULAR O$riMONOCULAR O$wiBINOCULAR O$riBINOCULAR O$wi^MONOCULAR O$ri^MONOCULAR O$iMULTIOCULAR OāOMBINING ʡVZMETbˬ MILLIONS >bƫ MILLIONS >bƞ MILLIONS >aSLAVONIC ɮaǋʡiUKRAINIAN IEvIvYIvUvHARD >vYERUvSOFT >vʉbKAVYKAbPAYEROKāYRILLIC KAVYKA$PAYEROK$wiDWE$riDWE$wiDZWE$riDZWE$wiZHWE$riZHWE$wiCCHE$riCCHE$wiDZZE$riDZZE$wiTE dƖǶ$riTE dƖǶ$wiTWE$riTWE$wiTSWE$riTSWE$wiTSSE$riTSSE$wiTCHE$riTCHE$wiHWE$riHWE$wiSHWE$riSHWE$wi^O$ri^O$wiɠED O$riɠED OaȊiʡHARD >qSOFT >aǋʡiEFvɎEaBAMUM iAnKAnUnKUnEEnREEnTAEnOnNYInInLAnPAnRIIcEEnLEEEEnMEEEEnTAAnNDAAeJAEMnMnSUUnMUnSHIIeIeHEUXeEUXnKYEEeETnNUAEceJUAEnYOQnSHUnYUQe",
  "AnNˈnKEUXnPEUXnNJEEeTEEnPUEnWUEnPEEnFEEnRUnLUnMInNInREUXeAEnKENnNGKWAENcGAcAnSHOnPUAEnFUeOMnWAnNAnLInPInLOQnKOnMBENnRENnMENeAnTInKInMOeBAAnTETnKPAnˬnNTUUnSAMBAnFAAMAEnKOVUUcGHOMoǋ= KOQNDONfTUKWENTISoNJAEMLIoǈoʧ.MMAoSEMIʧoȈ=#A700aȊiCHINESE T[ YIN PING+ANG PING+IN ˈNG+ANG ˈNG+IN QU+ANG QU+IN RU+ANG RUgEXTRA-ǡȗT[ ɢgǡȗT[ ɢgMID ȗT[ ɢgǾȗT[ ɢgEXTRA-ǾȗT[ ɢpǡȗȱSTEM T[ ɢgǡȗȱSTEM T[ ɢgMID ȗȱSTEM T[ ɢgǾȗȱSTEM T[ ɢgEXTRA-ǾȗȱSTEM T[ ɢpǡȱSTEM T[ ɢgǡȱSTEM T[ ɢgMID ȱSTEM T[ ɢgǾȱSTEM T[ ɢgEXTRA-ǾȱSTEM T[ ɢgƮƋɢjSLASHjƘɢgƷ:ɭANGLEgɖɁ*lǂ*lǧ=lƭǧ=gǾƭǧ=gSTRESS xǡT[!ǾT[aǱwiEGYPTOʘALEForiEGYPTOʘALEFowiEGYPTOʘAINoriEGYPTOʘAINowiHENGoriHENGowiTZoriTZowiTRESILLOoriTRESILLOowiCUATRILLOoriCUATRILLOowiCUATRILLO dȿoriCUATRILLO dȿoirwF!SowiAAoriAAowiAOoriAOowiAUoriAUowiAVoriAVowiAV dƘɢoriAV dƘɢowiAYoriAYowiƦC dʓoriƦC dʓowiK",
  " dƜoriK dƜowiK dǙƜoriK dǙƜowiK dƜ xǙƜoriK dƜ xǙƜowiBROKEN LoriBROKEN LowiL dǡƜoriL dǡƜowiO dǬƜ ɍoriO dǬƜ ɍowiO dLOOPoriO dLOOPowiOOoriOOowiP dƜ ʛǑoriP dƜ ʛǑowiP dFLOURISHoriP dFLOURISHowiP dSQUIRREL ȵoriP dSQUIRREL ȵowiQ dƜ ʛǑoriQ dƜ ʛǑowiQ dǙƜoriQ dǙƜowiR ROTUNDAoriR ROTUNDAowiRUM ROTUNDAoriRUM ROTUNDAowiV dǙƜoriV dǙƜowiVYoriVYowiVISIGOTHIC ZoriVISIGOTHIC ZowiTˁdƜoriTˁdƜowiTˁdƜ ʛǑoriTˁdƜ ʛǑowiVENDoriVENDowiEToriETowiISoriISowiCONoriCONaȊiUSaǱriDUMbLUMbMUMbNUMbRUMoirwRUMoriTUMbUMowiɓDoriɓDowiɓForiɓFowiɓGfƵɓGoriƵɓGowiƵLoriƵLowiɓRoriɓRowiɓSoriɓSowiɓToriɓTaȊiǾƧȰgʧgǽȟ>aǱwiSALTILLOoriSALTILLOowiƵHoriL dư xBELToiSINOʘʓowiN dǑoriN dǑowiC dɢoriC dɢvǏbH dǏowiB dFLOURISHoriB dFLOURISHowiF dƜoriF dƜowiVOLAPUK AEoriVOLAPUK AEowiVOLAPUK OEoriVOLAPUK OEowiVOLAPUK UEoriVOLAPUK UEowiG dɲƜoriG dɲƜowiK dɲƜo",
  "riK dɲƜowiN dɲƜoriN dɲƜowiR dɲƜoriR dɲƜowiS dɲƜoriS dɲƜowiH dǶfƦǴEfɉGfL dBELTfrwIoirwQowiƵK%TfJ dɠED-ȵfCHIfBETAoriBETAowiʉoriʉowiU dƜoriU dƜowiȓAoriȓAowiȓIoriȓIowiȓUoriȓUowiOLD POLISH OoriOLD POLISH OowiANGLICANA WoriANGLICANA WowiC dǏfS dǶfZ dǏfD dǽƜ ɍoriD dǽƜ ɍowiS dǽƜ ɍoriS dǽƜ ɍ#A7D0owiȖɓGoriȖɓG#A7D3b^THORN#A7D5vWYNNowiƖSCOTS SoriƖSCOTS SowiSIGMOID SoriSIGMOID S#A7F2aȊiwChFhQaǱwiƦƺHoriƦƺHoEPIGRAPHIC iˌIaȊiwH dƜgrȉOEaǱirwƵMoEPIGRAPHIC iƦF;PhƭMq LOʭhɒMaSYLOTI NAGRI iAjIn@DVISVARAniUjEjOn@HASANTAniKOfHOjGOfHOn@ǚniCOfHOjJOfHOjTTOpHOjDDOpHOjTOfHOjDOfHOjNOjPOfHOjBOfHOjMOjROjLOjRROjSOjHOnƯ@AhIhUhEhOOnPOETRY =-1q2q3q4n@ȚHASANTA#A830aNORTH INDIC ȴ[ QUARTERqHALFfƽQUARTERSf[ ɌˍTHqǄHfƽɌˍTHSuȧ=uPLACEHOLDER =uRUPEE =uQUANTITY =#A840aPHAGS-PA iKAkHAgGAgʭgCAkHAgJAgʺgTAkHAgDAgNAgPAkHAgBAgMAgTSAmHAgDZAg",
  "WAgZHAkAgrAgYAgRAgLAgˈkAgHAgAgIgUgEgOgQAgXAgFAgGGAgEE$SUBJOINED iWAvYA$iTTAmHAgDDAgNNAgȚYAgVOICELESS ˈfD HAgASPIRATED FA$SUBJOINED iRA(PERFIXED iRA$iǳ$Ȝ Ȯ =$^Ȯ =$= ˈDe^ˈD#A880aSAURASHTRA @ǚgȢ(iAbAmIbImUbUmƻR!RvL!LmEbEmAImObOmAUmKAbHAmGAbHAmʭmCAbHAmJAbHAmʺmTTAjHAmDDAjHAmNNAmTAbHAmDAbHAmNAmPAbHAmBAbHAmMAmYAmRAmLAmVAmˈbSAbAmHAmLLA(Ȍ@HAARU(Ư@AApIlIpUlUpƻRsR+LsLpElEpAIpOlOpAU(@ȹgǳ#A8CE(DANDAuɂuIGIT ZEROk[kȒmǘk~mɊkɌmǩkǄkǰ#A8E0aǋDEVANAGARI ƣ![!Ȓ%ǘ!~%Ɋ!Ɍ%ǩ!Ǆ!ǰfiA%U%KA%NA%PA%RA%VIf@ɤaDEVANAGARI @SPACING ǳgǳ ȹg^ǳ ȹgǳ Ȓ&ǘ%ɤgPUSHPIKA(GAP FILLER(CARET(ȮƜ(@SIDDHAM(JAIN OM(iAY(Ư@AYaKAYAH LI ƣc[cȒgǘc~gɊcɌgǩcǄcǰ$iKAkHAgGAgʭgSAkHAgZAgʺgTAgHTAgNAgPAkHAgMAgDAgBAgRAgYAgLAgWAgTHAgHAgVAgCAgAgOEgIgOO$ƯUEcEcUcEEcO$T[ PLOPHUeCALYAb PLOPHU$@CWIeSHYAaREJANG iKAeGAeʭeTAeDAeNAePAeBAeMAeCAeJAeʺeSAeRAeLAeYAeWAeHAeMBAeNGG",
  "AcDAcYJAeAzƯ@ImUmEmAImOmAUmEUbAzȌ@NGlpRpHzȹ#A95Fzɣ=aHANGUL CHOSEONG ɘ-ˣlɳlʨlʪgˤ-ȻpʩȻpɘpʩɘpˣpɳpʩɳpˢɳpʨpʪpʣgˣ-Ȼpɘpʨgɳ-ʨ-ɦpʣpɬgʩʨ-ɳgIEUNG-ˤpɬgʩʪ-ɬfɦgʤ-ɬgɬ-ʨgʩYEORINɬ#A980aJAVANESE @PAʺNGGAeCECAKeLAYAReWIGʺN$iAgI KAWIkkIgUgPA CEREKgʭ LELETq RASWADIgEgAIgOgKAm SASAKbMURDAgGAm MURDAgʭgCAm MURDAgJAgʺ MURDAgJA MAHAPRANAgʺgTTAb MAHAPRANAgDDAb MAHAPRANAgNA MURDAgTAm MURDAgDAm MAHAPRANAgNAgPAm MURDAgBAm MURDAgMAgYAgRAm AGUNGgLAgWAgSA MURDAjAHAPRANAmgHA$@CECAK TELU$Ư@TARUNGfOLONGjWULUh MELIKjSUKUh MENDUTjTALINGjDIRGA MUREjPEPET$Ȍ@KEREThPENGKALhCAKRA$PANGKON$<RERENGGAN$:RERENGGAN$PADA ANDAPeMADYAeLUHUReWINDUePANGKATeLINGSAcUNGSIeADEGm ADEGePISELEH$ƵPADA PISELEH#A9CF$PANGRANGKEP$ƣc[cȒgǘc~gɊcɌgǩcǄcǰ#A9DE$PADA TIRTA TUMETESeISEN-ISENaMYANMAR iˈN GHAjCHAjJHAjNNAjBHA.@ˈN SAW.ȊiˈN REDUPLICATION.iTAI LAING ʺq",
  "FAqGAvHAqJAvHAqDDA!HAqNNA.TAI LAING ƣh[hȒqǘh~qɊhɌqǩhǄhǰ.iTAI LAING LLAqDAvHAqBAvHA#AA00aCHAM iAuIuUuEuAIuOuKAnHAuGAnHAuNGUEeAuCHAeHAuJAnHAuNHUEeAeJAuTAnHAuDAnHAuNUEnAuDDAuPAnPAnHAuBAnHAuMUEnAuBBAuYAuRAuLAuVAuSSAnAuHAąƯ@AAgIkIgEIgUgOEkgAIkUgUEąȌ@YAjRAjLAjWA#AA40ąiǫKmGmNGąȌ@ǫNGąiǫCHmTmNmPmYmRmLmSSąȌ@ǫMvH#AA50ąƣ([(Ȓuǘ(~uɊ(Ɍuǩ(Ǆ(ǰ#AA5CąǸSPIRALkDANDAmɂkǹDANDAaMYANMAR iKHAMTI GApCAlHApJAlHApʺpTTAhHApDDAhHAlHApNApSApHAlHApFA.ȊiKHAMTI REDUPLICATION.iKHAMTI XApZApRA$OGOGRAM KHAMTI OAYhQNhHM.Ɲ AITON EXCLAMATIONf[fȒ.iAITON RA.@PAO KAREN T[nTAI LAING T[-2%5.iSHWE PALAUNG CHA%ˈaTAI VIET iǾKOgǡKOgǾKHOgǡKHOgǾKHHOgǡKHHOgǾGOgǡGOgǾNGOgǡNGOgǾCOgǡCOgǾCHOgǡCHOgǾSOgǡSOgǾNYOgǡNYOgǾDOgǡDOgǾTOgǡTOgǾTHOgǡTHOgǾNOgǡNOgǾBOgǡBOgǾPOgǡPOgǾPHOgǡPHOgǾFOgǡFOgǾMOgǡMOgǾYOgǡYOgǾROgǡROgǾLOgǡLOgǾVOgǡVOgǾHOgǡHOgǾOgǡO$MAI KANG$ƯAA",
  "cIcUEgcEcO$MAI KHIT$ƯIAcUEAgAcAUEgYgNgM$T[ MAI EKmNUENGmTHOmSONG#AADB$Ɲ KONgNUENGgSAMgHO HOIgKOI KOIaMEETEI MAYEK iEjOjCHAjʺjTTApHAjDDApHAjNNAjˈfSAnƯ@IIhUUhAAIqUqAUnCHEIKHANnAHANG KHUDAMeNJInɏREPETITION =nWORD REPETITION =nƯ@ȢeIRAMA#AB01aETHIOPIC ɏTTHUfIfAAfEEpfO#AB09mDDHUfIfAAfEEpfO#AB11bZUjIjAAjEEfjO#AB20mCCHHApUpIpAApEElpO#AB28mBBAjUjIjAAjEEfjO#AB30aǱriɢRED ʽbA REVERSED-SCHWAbȲiEjARRED EbE dFLOURISHbLENIS FbɉG dɠED-ȵbL dƭLAZY Sv^ƖȅvƖʏbM dɠED-ȵbN dɠED-ȵbENG dɠED-ȵbȲiOt dƜbǴO dƜbƭOEbƵOE dƜyƘƜ! OPEN-Oy dƜbSTIRRɁRoirwR d:LEGoriR WITHOUT HANDLEb^RbR dɠED-ȵb^R dɠED-ȵbɉR! dʏbBASEȍESHbU dǽ:LEGfɢ dǽ:LEGjIbƵUIbU d<ǶbCHIp dǾ:ʏt<SERIFbX dǾ:ʏ%NG <LEGħ xǾ:ʏĨdSERIFbY dǽ:LEGaȊɀ dƭɀ$irHENGpL dƭLAZY S&ƖȅpU d<ǶaǱriSAKHA YATbɎEbǴOEbUObƭʽaɛirwʉaǱriDZ ʈ dưbTS ʈ dưjURNED R dƖȅaȊirƵWg<TACKg:TACK#AB70aCHEROKEE ",
  "riApEpIpOpUpVpGApKApGElIlOlUlVpHAlElIlOlUlVpLAlElIlOlUlVpMAlElIlOlUpNApHNApNAHlElIlOlUlVpQUAhEhIhOhUhVpSAllElIlOlUlVpDApTApDEpTEpDIpTIpDOlUlVlLApTLAhEhIhOhUhVlSAhEhIhOhUhVpWAlElIlOlUlVpYAaMEETEI MAYEK iKOKjSAMjLAIjMITjPAjNAjCHILjTILjKHOUjNGOUjTHOUjWAIjYANGjHUKjUNjIjPHAMjATIYAjGOKjJHAMjRAIjBAjJILjDILjGHOUjDHOUjBHAMjKOK LONSUMjLAI LONSUMjMIT LONSUMjPA LONSUMjNA LONSUMjTIL LONSUMjNGOU LONSUMjI LONSUMnƯ@ONAPhINAPhANAPhYENAPhSOUNAPhUNAPhCHEINAPhNUNGnCHEIKHEInLUM IYEKnAPUN IYEK#ABF0nƣb[bȒjǘb~jɊbɌjǩbǄbǰ#D7B0aHANGUL JUNGSEONG O-YEObO-IkYO-AfEjEOkU-YEObI-IkYU-AEjOkEU-AjEOfjOkI-YA-OfEjEOfbO-IbYOjUbIkARAEA-AlE#D7CB.ONGSEONG ˳-ˤlCHIEUCHkʩɘ%-ɳkɘ-ɳhʨ%-ȻhʪqHIEUCHhɦkˤ-ʩȻlȻ-ɬkʩˤ-ʣkˤ-ˣ-ɬlɳ-ɘ&ʤlYESIEUNGqORINɬ-ɬkˢˤkˣ-˳lʩ˳kʩˣkˣ-ɳ-ʨlʪkɳ-ɘlˤ-ʤlˣkʩɳkɳ-ʨ-ɘlʪhHIEUCHkʨ-ˣpˢɳmSANGʨ-Ȼ!ɘmIOS-PANʨpʪlHIEUCHpɦpɬkPANʨ-ɳqˢɳk",
  "YESIEUNG-ˣvɬkʪ-ɳlʩɳkʩʪkʤ-ʨqɦ#F900aCJK COMPATIBILITY IDEOGRAPH-F900s1s2s3s4s5s6s7s8s9sAsBsCsDsEsF+10s1s2s3s4s5s6s7s8s9sAsBsCsDsEsF+20s1s2s3s4s5s6s7s8s9sAsBsCsDsEsF+30s1s2s3s4s5s6s7s8s9sAsBsCsDsEsF+40s1s2s3s4s5s6s7s8s9sAsBsCsDsEsF+50s1s2s3s4s5s6s7s8s9sAsBsCsDsEsF+60s1s2s3s4s5s6s7s8s9sAsBsCsDsEsF+70s1s2s3s4s5s6s7s8s9sAsBsCsDsEsF+80s1s2s3s4s5s6s7s8s9sAsBsCsDsEsF+90s1s2s3s4s5s6s7s8s9sAsBsCsDsEsF+A0s1s2s3s4s5s6s7s8s9sAsBsCsDsEsF+B0s1s2s3s4s5s6s7s8s9sAsBsCsDsEsF+C0s1s2s3s4s5s6s7s8s9sAsBsCsDsEsF+D0s1s2s3s4s5s6s7s8s9sAsBsCsDsEsF+E0s1s2s3s4s5s6s7s8s9sAsBsCsDsEsF+F0s1s2s3s4s5s6s7s8s9sAsBsCsDsEsF&A00s1s2s3s4s5s6s7s8s9sAsBsCsDsEsF+10s1s2s3s4s5s6s7s8s9sAsBsCsDsEsF+20s1s2s3s4s5s6s7s8s9sAsBsCsDsEsF+30s1s2s3s4s5s6s7s8s9sAsBsCsDsEsF+40s1s2s3s4s5s6s7s8s9sAsBsCsDsEsF+50s1s2s3s4s5s6s7s8s9sAsBsCsDsEsF+60s1s2s3s",
  "4s5s6s7s8s9sAsBsCsD#FA70+70s1s2s3s4s5s6s7s8s9sAsBsCsDsEsF+80s1s2s3s4s5s6s7s8s9sAsBsCsDsEsF+90s1s2s3s4s5s6s7s8s9sAsBsCsDsEsF+A0s1s2s3s4s5s6s7s8s9sAsBsCsDsEsF+B0s1s2s3s4s5s6s7s8s9sAsBsCsDsEsF+C0s1s2s3s4s5s6s7s8s9sAsBsCsDsEsF+D0s1s2s3s4s5s6s7s8s9#FB00aǱrȉFFpIpLpFIlLfǬS TfST#FB13aARMENIAN rȉMEN NOW%ECH%INIhVEW NOWhMEN XEH#FB1DaHEBREW iYOD dHIRIQzPOINT JUDEO-SPANISH VARIKAzȉYIDDISH YOD YOD PATAH.ETTER ALTERNATɊ AYINeWIDE ALEFbDALETbHEbKAFbLAMEDbǫMEMbRESHbTAVeALTERNATɊ Ƴ>eSHIN dSHIN ʓqIN ʓhɼ xSHIN ʓĤIN ʓeɰdPATAHhQAMATShMAPIQeBET dɼeGIMEL dɼeDALET dɼeHE dMAPIQeVAV dɼeZAYIN dɼ#FB38eTET dɼeYOD dɼeǫKAF dɼeKAF dɼeLAMED dɼ#FB3EeMEM dɼ#FB40eNUN dɼe˭ dɼ#FB43eǫPE dɼePE dɼ#FB46eTSADI dɼeQǭdɼeRESH dɼeSHIN dɼeTAV dɼeVAV dHOLAMeBET dRAFEeKAF dRAFEePE dRAFE.IGATURE ɰLAMEDaʋiɰWASLA |q]eBEEH |b]bƆbƙePEH |m]mƆmƙ",
  "eBEˋ|j]jƆjƙeTTEˋ|f]fƆfƙcEˋ|j]jƆjƙcTEH |b]bƆbƙeVEH |m]mƆmƙePEˋ|j]jƆjƙeDǺ|b]bƆbƙeNǺ|b]bƆbƙeTCˋ|j]jƆjƙbEH |p]pƆpƙeDDAHAL |f]cAHAL |j]cUL |m]cDAL |b]eJEH |m]eRREH |b]eKEˋ|j]jƆjƙeGAF |m]mƆmƙcUEH |b]bƆbƙeNGOEH |j]jƆjƙcOON GHUNNA |v]eRʌ|j]jƆjƙeˋdǺ) |;]mGOAL |l]lƆlƙmDOACHASHMEE |+]+Ɔ+ƙeǺɢREE |q]qdɇ) |Ī]zƝ Ʈ)m?eǐǗ)l?cǘ Ǘ)q?qƏƚ)Ĭ?e~ Ǘ)h?e^Ƌɢ ?eǐǗʚLY )y?eʏerTAH )h?eWASLA )#FBD3ziNG |k]kƆkƙeU |g]eOE |k]eYU |k]eU dɇ) |eVE |k]eKIRGHIZ OE |q]pYU |q]eE |g]gƆgƙeUIGHUR KAZAKH KIRGHIZ ƛƆıƙ.IGATURE Ǻdɇ) dɰ|į]īE |ĭ]ĪWAW |Į]ĪU |Ĭ]ĪOE |ĭ]ĪYU |ĭ]ĪE |Ĭ]ĬƆgUIGHUR KIRGHIZ Ǻdɇ) dƛ|ņ]ņƆ.ETTER FARSI Ǻ|h]hƆhƙ.IGATURE Ǻdɇ) dǥ|ĪȘ|ĪƱ|Īƛ|ĪǺ|gBEH dǥ|qȘ|qKȘ|qƱ|qƛ|qǺ|gTEH dǥ|qȘ|qKȘ|qƱ|qƛ|qǺ|kˋdǥ|vƱ|vƛ|vǺ|gǥdȘ|vƱ|gȘdǥ|qƱ|gKȘdǥ|vȘ|vƱ|gSEEN dǥ|vȘ|vKȘ|vƱ|kAD dȘ|qƱ|gDAD dǥ|qȘ|qKȘ|qƱ|gTAH dȘ|qƱ|gZAH dƱ|gAIN dǥ|qƱ|gGHAIN dǥ|!Ʊ|gFEH d",
  "ǥ|qȘ|qKȘ|qƱ|qƛ|qǺ|gQAF dȘ|qƱ|qƛ|qǺ|gKAF dɰ|qǥ|qȘ|qKȘ|qLAM |qƱ|qƛ|qǺ|gLAM dǥ|qȘ|qKȘ|qƱ|qƛ|qǺ|gƱdǥ|vȘ|vKȘ|vƱ|vƛ|vǺ|gʌdǥ|vȘ|vKȘ|vƱ|vƛ|vǺ|gˋdǥ|qƱ|qƛ|qǺ|gǺdǥ|qȘ|qKȘ|qƱ|qƛ|qǺ|gTHAL dɈɰ|gREH dɈɰ|gƛdɈɰ|gˈDDA dDAMMATAN |%KASRATAN |%FATHA |%DAMMA |%KASRA |%Ɉɰ|gǺdɇ) dREH ]ĪZAIN ]ĪƱ]Īʌ]Īƛ]ĪǺ]gBEH dREH ]qZAIN ]qƱ]qʌ]qƛ]qǺ]gTEH dREH ]qZAIN ]qƱ]qʌ]qƛ]qǺ]kˋdREH ]vZAIN ]vƱ]vʌ]vƛ]vǺ]gFEH dƛ]qǺ]gQAF dƛ]qǺ]gKAF dɰ]qLAM ]qƱ]qƛ]qǺ]gLAM dƱ]qƛ]qǺ]gƱdɰ]vƱ]gʌdREH ]vZAIN ]vƱ]vʌ]vƛ]vǺ]gƛdɈɰ]gǺdREH ]qZAIN ]qƱ]qʌ]qƛ]qǺ]qɇ) dǥƆĪȘƆĪKȘƆĪƱƆĪˋƆgBEH dǥƆqȘƆqKȘƆqƱƆqˋƆgTEH dǥƆqȘƆqKȘƆqƱƆqˋƆkˋdƱƆgǥdȘƆvƱƆgȘdǥƆqƱƆgKȘdǥƆvƱƆgSEEN dǥƆvȘƆvKȘƆvƱƆkAD dȘƆqKȘƆqƱƆgDAD dǥƆqȘƆqKȘƆqƱƆgTAH dȘƆgZAH dƱƆgAIN dǥƆqƱƆgGHAIN dǥƆ!ƱƆgFEH dǥƆqȘƆqKȘƆqƱƆgQAF dȘƆqƱƆgKAF dǥƆqȘƆqKȘƆqLAM ƆqƱƆgLAM dǥƆqȘƆqKȘƆqƱƆqˋƆgƱdǥƆvȘƆvKȘƆvƱƆgʌdǥƆvȘƆvKȘƆvƱƆvˋƆgˋdǥƆqƱƆqɈɰƆgǺd",
  "ǥƆqȘƆqKȘƆqƱƆqˋƆvAMZA ) dƱƙĪˋƙgBEH dƱƙqˋƙgTEH dƱƙqˋƙkˋdƱƙvˋƙgSEEN dƱƙvˋƙkHEEN dƱƙ!ˋƙgKAF dLAM ƙqƱƙgLAM dƱƙgʌdƱƙvˋƙgǺdƱƙqˋƙgˈDDA dFATHA ƙ%DAMMA ƙ%KASRA ƙgTAH dƛ|qǺ|gAIN dƛ|qǺ|gGHAIN dƛ|!Ǻ|gSEEN dƛ|vǺ|kHEEN dƛ|!Ǻ|gȘdƛ|qǺ|gǥdƛ|vǺ|gKȘdƛ|vǺ|gSAD dƛ|qǺ|gDAD dƛ|qǺ|gSHEEN dǥ|!Ș|!KȘ|!Ʊ|!REH |kEEN dREH |kAD dREH |gDAD dREH |gTAH dƛ]qǺ]gAIN dƛ]qǺ]gGHAIN dƛ]!Ǻ]gSEEN dƛ]vǺ]kHEEN dƛ]!Ǻ]gȘdƛ]qǺ]gǥdƛ]vǺ]gKȘdƛ]vǺ]gSAD dƛ]qǺ]gDAD dƛ]qǺ]gSHEEN dǥ]!Ș]!KȘ]!Ʊ]!REH ]kEEN dREH ]kAD dREH ]gDAD dREH ]gSHEEN dǥƆ!ȘƆ!KȘƆ!ƱƆkEEN dˋƆkHEEN dˋƆgTAH dƱƆgSEEN dǥƙvȘƙvKȘƙkHEEN dǥƙ!Șƙ!KȘƙgTAH dƱƙgZAH dƱƙgɰdFATHATAN ]ģ|aORNATE <ǒz:ǒaʋȉRAHIMAHU ALLAAHmDI ALLAAHU ANHtAAtUMyAA;NNAgSALLALLAAHU ALAYHI WA-AALIHgALAYHI AS-SALAAMpM AS-SALAAMlAA AS-SALAAMp AS-SALAATU WAS-SALAAMgQUDDISA SIRRAHgSALLALLAHU ALAYHI WAAALIHEE WA-SALLAMgALAYHAA",
  " AS-SALAAMgTABAARAKA WA-TAAALAAgRAHIMAHUM ALLAAHgTEH dǥdƱƆqȘdǥ]ħƆyƱƆqKȘdƱƆqƱdǥƆģȘƆģKȘƆgǥdƱdȘ]ĨƆgȘdƱdǺ]ģƛ]gSEEN dȘdǥƆvǥdȘƆĤƛ]vƱdȘ]ĨƆĤǥƆĤƱ]ĩƆkAD dȘdȘ]ĦƆqƱdƱ]kHEEN dȘdƱ]ĩƆ!ǥdǺ]!ƱdKȘ]ĪƆĥƱ]ĪƆgDAD dȘdƛ]qKȘdƱ]ĨƆgTAH dƱdȘ]ħƆģƱƆģǺ]gAIN dǥdƱ]qƱdƱ]ĨƆģƛ]gGHAIN dƱdƱ]ĥǺ]ĥƛ]gFEH dKȘdƱ]ĨƆgQAF dƱdȘ]ģƱ]gLAM dȘdƱ]yǺ]yƛ]qǥdǥƆĨ]qKȘdƱ]ĨƆqƱdȘ]ħƆgƱdȘdǥƆģƱƆģǺ]vǥdȘƆĤƱƆvKȘdǥƆĤƱƆ#FD92vǥdKȘƆgˋdƱdǥƆģƱƆgʌdȘdƱƆģƛ]vǥdƱ]ĩƆĤƛ]vƱdǺ]Ĥƛ]gǺdƱdƱ]ĨƆgBEH dKȘdǺ]gTEH dǥdǺ]ģƛ]qKȘdǺ]ģƛ]qƱdǺ]ģƛ]gǥdƱdǺ]vȘdƛ]vƱdƛ]gSEEN dKȘdƛ]kAD dȘdǺ]kHEEN dȘdǺ]gDAD dȘdǺ]gLAM dǥdǺ]qƱdǺ]gǺdȘdǺ]qǥdǺ]qƱdǺ]gƱdƱdǺ]gQAF dƱdǺ]gʌdȘdǺ]gQAF dƱdȘƆgLAM dȘdƱƆgAIN dƱdǺ]gKAF dƱdǺ]gʌdǥdȘƆgƱdKȘdǺ]gLAM dǥdƱƆgKAF dƱdƱ]gLAM dǥdƱ]gʌdǥdȘ]gǥdȘdǺ]gȘdǥdǺ]gƱdǥdǺ]gFEH dƱdǺ]gBEH dȘdǺ]gKAF dƱdƱƆgAIN dǥdƱƆgSAD dƱdƱƆkEEN dKȘdǺ]gʌdǥdǺ]#FDCFgSALAAMUHU ALAYNAA#FDF0bLA USED AS KORANIC Sʐ@",
  "|gQALA USED AS KORANIC Sʐ@|gALLAH |kKɢ |gMOHAMMAD |gSALAM |gRASOUL |gALAYHE |gWASALLAM |gSALLA |fLLAHOU ALAYHE WASALLAMgJALLAJALALOUHOUaRIAL >aʋȉBISMILLAH AR-RAHMAN AR-RAHEEMgSUBHAANAHU WA TAAALAAgAZZA WA JALLaȬTION SELECTOR-1b2b3b4b5b6b7b8b9b10j1j2j3j4j5j6aPRESENTATION ʮʅƋȿsȪȿīǈsʧsSEMIʧsǧ=sȈ=s<Ɣʞƥs:ƔʞBRAKCETsƘELLIPSIS#FE20aǋȉ<HALFb:HALF,^ȅ <HALFl:HALF,Ǫ <HALFk:HALF,CONJOINING Ǫ,ȉ<ƺ?b:ƺ?,ȅ <ƺ?g:ƺ?,Ǫ <ƺ?k:ƺ?,CONJOINING Ǫ ?(YRILLIC TITLO <HALFq:HALFaPRESENTATION ʮʅƋǐƮLEADERsEM DASHtN DASHsǾʄsWAVY Ǿʄs<ǒs:ǒs<ɕƥs:ɕƥs<Ǧƥs:Ǧƥs<Ɨʞƥs:Ɨʞƥs<^ǲƥs:^ǲƥs<ǲƥs:ǲƥs<ɭƥs:ɭƥs<Ɣɭƥs:ƔɭƥaSESAME ʓaƔSESAME ʓaPRESENTATION ʮʅƋ<ǃƥs:ǃƥa˙OVERʄaɑȍOVERʄaWAVY OVERʄa^WAVY OVERʄāASHED ǾʄaɑȍǾʄaWAVY ǾʄarȿoȪȿoǈ#FE54oSEMIʧoʧoȈ=oǧ=zM DASHo<ǒo:ǒo<ɕƥo:ɕƥo<Ǧƥo:ǦƥoǇ>oAMPERSANDzSTERISKoƳ>oHYPHEN-MINUSoǅ>oƪ>oȟ>#FE68oɅʰoDOLLAR >oPERCENT",
  " >oCOMMERCIAL AT#FE70aʋFATHATAN |zTATWEEL dFATHATAN )zDAMMATAN |zȵ FRAGMENTzKASRATAN |#FE76zFATHA |nƙzDAMMA |nƙzKASRA |nƙzˈDDA |eƙ.UKUN |nƙziɇ|eɰdMADDA ) |Ĥ]hɇ) |Ĥ]eWAW dɇ) |ģ]eɰdɇ? |Ĥ]eǺdɇ) |ģ]ģƆģƙeɰ|b]eBEH |m]mƆmƙeTEH MARBUTA |v]m|m]mƆmƙcˋ|b]bƆbƙeǥ|b]bƆbƙeȘ|m]mƆmƙeKȘ|b]bƆbƙeDAL |m]eTHAL |b]eREH |m]eZAIN |b]eSEEN |b]bƆbƙcHEEN |j]jƆjƙcAD |m]mƆmƙeDAD |m]mƆmƙeTAH |m]mƆmƙeZAH |m]mƆmƙeAIN |m]mƆmƙeGHAIN |j]jƆjƙeFEH |m]mƆmƙeQAF |m]mƆmƙeKAF |m]mƆmƙeLAM |m]mƆmƙeƱ|b]bƆbƙeʌ|b]bƆbƙeˋ|m]mƆmƙeWAW |m]eƛ|!]eǺ|m]mƆmƙ.IGATURE LAM dɰdMADDA ) |į]ģɇ) |į]ĩ? |į]+|+]#FEFFaZERO WIDTH NO-BREAK ʻ#FF01aFULLWIDTH ǧ=,Ǣ=,Ǉ>,DOLLAR >,PERCENT >,AMPERSAND(POSTROPHE,<ǒ,:ǒ,ɮ,Ƴ>,ȿ,HYPHEN-MINUS,ǈ,ʰ,ƣg[gȒkǘg~kɊgɌkǩgǄgǰ,ʧ,SEMIʧ,ǅ>,ȟ>,ƪ>,Ȉ=,COMMERCIAL AT,ǱwiAsBsCsDsEsFsGsHsIsJsKsLsMsNsOsPsQsRsSsTsUsVsWsXsYsZ(EFT ǃƥ,Ʌʰ(IGHT ǃƥ,ƧȰ",
  ",Ǿʄ,Ȑ Ȱ,ǱriA&B&C&D&E&F&G&H&I&J&K&L&M&N&O&P&Q&R&S&T&U&V&W&X&Y&Z(EFT ɕƥ,Ƌʄ,:ɕƥ,ȅ,<Ɣǒ,:ƔǒaHALFWIDTH Ȫǈ,<ɭƥ,:ɭƥ,Ȫȿ,KATAKANA ƖʓbiWOvrAtItUtEtOtYA;U;OtTUm-ʸPROLONGED SOUND =m iAvIvUvEvOvKA!I!U!E!OvSA!I!U!E!OvTA!I!U!E!OvNA!I!U!E!OvHA!I!U!E!OvMA!I!U!E!OvYA!U!OvRA!I!U!E!OvWAvNbʂ=bSEMI-ʂ=,HANGUL FILLERkiȻhʩȻhȻ-ʨh˳&-ʪ+ɬhɘhʩɘhˤ&-Ȼ+ˣ+ɳ+ʨ+ɦ+ʤ+ɬhˣhɳhʩɳhɳ-ʨhʨqSANGʨhIEUNGhʪhʩʪhCHIEUCHhʣhɦhʤhɬ#FFC2hAqEhYAvEhEOq#FFCAhYEOvhOhWAvEhOE#FFD2hYOhUhWEOvqIhYU#FFDAhEUhYIhI#FFE0aFULLWIDTH CENT >,POUND >,Ɇ>,Ǫ,BROKEN ɢ,YEN >,WON >#FFE8aHALFWIDTH FORMS ǉʚ,ƍ*,Ƥ*,Ƈ*,ƚ*,ƗǤ,Ɣǜ#FFF9aINTERʄAR AN˿ANCHORlȡlTERMINATORaOBJECT REPLACEMENT CHARACTERaREPLACEMENT CHARACTER#10000aʄAR B ɏB008 Aj38 Ej28 Ij61 Oj10 Uj01 DAj45 DEj07 DIj14 DOj51 DUf7 JAj46 JE#1000Dj36 JOj65 JUj77 KAj44 KEj67 KIj70 KOj81 KUf0 MAj13 MEj73 MIj15 MOj23 MUj06 NAj",
  "24 NEj30 NIj52 NOf5 NUj03 PAj72 PEj39 PIj11 POj50 PUj16 QAj78 QEj21 QIj32 QO#10028j60 RAj27 REj53 RIj02 ROj26 RUj31 SAj09 SEj41 SIj12 SOj58 SUf9 TAj04 TEj37 TIj05 TOj69 TUj54 WAj75 WEj40 WIf2 WO#1003Cj17 ZAj74 ZE#1003Fj20 ZOf5 A2j43 A3j85 AUj71 DWEj90 DWOj48 NWAj29 PU2j62 PTEj76 RA2j33 RA3j68 RO2f6 TA2j87 TWEj91 Ȓ#10050(MBOL B018b9m22m34m47b9m56m63b4m79m82b3b6b9#10080$IDEOGRAM B100 MANf2 WOMANf4 DEERf5 EQUIDpF MAREpM STALLIONf6F EWEpM RAMf7F SHE-GOATpM HE-GOATf8F SOWpM BOARf9F COWpM BULLj20 WHEATf1 ɢLEYf2 OLɊf3 SPICEf5 CYPERUS$MONOGRAM B127 KAPOf8 KANAKO$IDEOGRAM B130 OILf1 WINEf2$MONOGRAM B133 AREPAf5 MERI$IDEOGRAM B140 BRONZEf1 GOLDf2f5 WOOLf6j50f1 HORNf2f3f4$MONOGRAM B156 TURO2$IDEOGRAM B157f8f9 CLOTHj60f1f2 GARMENTf3 ARMOURf4f5f6f7f8f9j70f1f2f3 MONTHf4f6 TREEf7f8f9j80f1f2f3f4f5f9j90f1 ",
  "HELMETb220 FOOTSTOOLf5 BATHTUBj30 SPEARf1 *f2f3 SWORDf4f6j40 WHEELED CHARIOTf1 CHARIOTf2 CHARIOT FRAMEf3 WHEELf5f6$MONOGRAM B247 DIPTE$IDEOGRAM B248f9j51f2f3f4 DARTf5f6f7f8f9mVESSEL B155v200%1%2%3%4%5%6%7%8%9!10%1%2%3%4%5%6%7%8%9!21%2%6%7%8%9!50v305#10100aAEGEAN WORD ȡ ʄpʓzCHECK =#10107zǇ[eȒcǘe~cɊeɌcǩeǄeǰeˬcɷcHIRTYeFORTYcIFTYeɌTYcǩTYeǄYeǰTYe[ ƫeǐƫcǘ ƫe~ ƫcɊ ƫeɌ ƫcǩ ƫeǄ ƫeǰ ƫe[ ƞeǐƞcǘ ƞe~ ƞcɊ ƞeɌ ƞcǩ ƞeǄ ƞeǰ ƞeˬ ƞcɷ ƞcHIRTY ƞeFORTY ƞcIFTY ƞeɌTY ƞcǩTY ƞeǄY ƞeǰTY ƞ#10137zWǄ BASE UNITeFIRST SUBUNITeSECOND SUBUNITeTHIRD SUBUNITe~TH SUBUNITzDRY MEASURE FIRST SUBUNITzLIQUID MEASURE FIRST SUBUNITzMEASURE SECOND SUBUNITcTHIRD SUBUNITaɛACROPHONIC ATTIC [ QUARTER!HALF!DRACHMAlFɊqFTYqVE ƫ%ƞqFTY ƞqVE TALENTSlˬ TALENTSlFIFTY TALENTSl[ ƫ TALENTSlȠƫ TALENTSl[ ƞ TALENTSlȠƞ TALENTS%STATERSlˬ STATERSlFIFTY S",
  "TATERSl[ ƫ STATERSlȠƫ STATERSl[ ƞ STATERSlˬ ƞ STATERSlFIFTY ƞ STATERSlˬ MNASkHERAEUM [ PLETHRONkTHESPIAN [kHERMIONIAN [kEPIDAUREAN ȒkTHESPIAN ȒkCYRENAIC ǐDRACHMASkEPIDAUREAN ǐDRACHMASkTROEZENIAN FɊ%ˬs ȚFORMkHERMIONIAN ˬkMESSENIAN ˬkTHESPIAN ˬ!HIRTYmROEZENIAN FIFTY; ȚFORMkHERMIONIAN FIFTYkTHESPIAN FIFTYv[ ƫvƽƫkEPIDAUREAN ȠƫkTROEZENIAN ȠƫmHESPIAN ȠƫkCARYSTIAN ȠƫkNAXIAN ȠƫkTHESPIAN [ ƞvȠƞkDELPHIC ȠMNASkSTRATIAN FIFTY MNASo[ ƺ>b ȚFORMoǐTHIRDS >zǘ ˏ>oYEAR >oTALENT >oDRACHMA >oOBOL >oǐOBOLS >zǘ OBOLS >o~ OBOLS >zɊ OBOLS >oMETRETES >oKYATHOS BASE >oLITRA >oOUNKIA >oXESTES >oARTABE >.OURA >oGRAMMA >oTRYBLION BASE >oZERO >o[ ȧ>oSINUSOID >oINDICTION >aNOMISMA >#10190aROMAN SEXTANS >oUNCIA >oSEMUNCIA >.XTULA >oDIMIDIA SEXTULA >oSILIQUA >oDENARIUS >oQUINARIUS >oSESTERTIUS >oDUPONDIUS >oAS >oCENTURIAL ",
  ">aASCIA Ɲ#101A0aɛƝ TAU RHO#101D0aPHAISTOS DISC @PEDESTRIANjLUMED ȮbTATTOOED ȮbCAPTɊjHILDbWOMANbHELMETbGAUNTLETbTIARAb*bBOWbSHIELDbCLUBbMANACLESfTTOCKbSAWbLIDbBOOMERANGbCARPENTRY PLANEbDOLIUMbCOMBbSLINGbCOLUMNbBEEHɊbSHIPbHORNjIDEbBULLS LEGbCATbRAMbEAGLEbDOVEbTUNNYbBEEbPLANE TREEbVINEbPAPYRUSbROSETTEbLILYbOX BACKbFLUTEbGRATERbSTRAINERjMALL AXEbWAVY BANDbǋɲƜ#10280aLYCIAN iAeEeBcHeGeDeIeWeZeTHeJeKeQeLeMeNeMMeNNeUePeKKeReSeTcTeANeENeHeX#102A0aCARIAN iAeP2eDeLeUUUeReLDeA2eQeBeMeOeD2eTeSHg2ceC-18eUeNNeXeNeTT2ePeSSeIeEeUUUUeKc2eNDeUUeGc2eSTg2eNGeIIeC-39eTTeUUU2eRReMBg2g3g4eLD2eE2eUUU3#102E0āOPTIC EPACT ƞS =nʆ[bȒjǘb~jɊbɌjǩbǄbǰnǇˬfɷfHIRTYjFORTYfIFTYjɌTYfǩTYjǄYjǰTYj[ ƫjǐƫfǘ ƫj~ ƫfɊ ƫjɌ ƫfǩ ƫjǄ ƫjǰ ƫ#10300aOLD ˻iAmBEmKEmDEmEmVEmZEmHEmTHEmImKAmELbMbNbSHmOmPEmSHEmKUmERbSmTEmUmEKSmPHEmKHEmEFbRSmCHEmIImUU",
  "mESS(˟[bFɊbˬbFIFTY#1032D(iYEmNORTHERN TSEmSOUTHERN TSEaGOTHIC iAHSAeBAIRKANeGIBAeDAGSeAIHVUSeQAIRTHRAeIUJAeHAGLeTHIUTHeEISeKUSMAeLAGUSeMANNAeNAUTHSeJEReURUSePAIRTHRAeǰTYeRAIDAeSAUILeTEIWSeWINJAeFAIHUeIGGWSeHWAIReOTHALeǰ ƫ#10350aOLD PERMIC iANmBURmGAImDOImEmZHOImDZHOImZATAmDZITAmImKOKEmLEImMENOEmNENOEmVOOImPEEImREImSIImTAImUmCHERYmSHOOIjCHOOImYRYbERUmObOmEFmHAmTSIUmVERmYERfIbATmIEmYUbAmIAaǋOLD PERMIC iAN%DOI%ZATA%NENOE%SII#10380aUGARITIC iALPAgBETAgGAMLAgKHAgDELTAgHOgWOgZETAgHOTAgTETgYODgKAFgSHINgLAMDAgMEMgDHALgNUNgZUgSAMKAgAINgPUgSADEgQOPAgRAˈgTHANNAgGHAINgTOgIgUgSSU#1039F$WORD DIVIDERaOLD PERSIAN @AkIkUkKAmUkGAmUkXAkCAkJAmIkTAmUkDAmImUkTHAkPAkBAkFAkNAmUkMAmImUkYAkVAmIkRAmUkLAkSAkZAkˈmSAkHA#103C8kAURAMAZDAA!-2!HAkXˈAYATHIYAkDAHYAAUSHv-2kBAGAmUUMISHuWORD DIVIDERuǇ[bȒjENjɷbƫ#10400aDESERET wi",
  "ǬI%E%A&H%O&OlǽI&E&A+H&O+OlAYlOWlWUlYEElHlPEElBEElTEElDEElCHEElJEElKAYlGAYlEFlVEElETHlTHEElESlZEElESHlZHEElERhLhMhNqGlOIlEW.riǬIvEvA!HvO!OfǽI!E!A%H!O%OfAYfOWfWUfYEEfHfPEEfBEEfTEEfDEEfCHEEfJEEfKAYfGAYfEFfVEEfETHfTHEEfESfZEEfESHfZHEEfERpLpMpNlGfOIfEWaˈVIAN iPEEPcTOTcKICKcFEEcTHIGHcSOgUREcCHURCHcYEAcHUNGcBIBcDEADcGAGcVOWcTHEYcZOOcMEASUREcJUDGEcWOEcHA-HAcLOLLcMIMEcIFcEGGcASHgDOcONcWOOLcOUTcAHcROARcNUNcEATcAGEcICEcUPcOAKgOZEgILcAWEgREcORcAIRcERRcARRAYcEARcIANcYEWaOSMAʺ iALEFcBAcTAcJAcXAcKHAcDEELcRAcSAgHIINcDHAcCAYNcGAcFAcQAAFcKAAFcLAANcMIINcNUUNcWAWcHAcYAcAcEcIcOcUcAAcEEcOO#104A0.ƣe[eȒcǘe~cɊeɌcǩeǄeǰ#104B0ĂAGE wiApIlNpHfBRAfCHAfEHCHAppINfHApYAfIfKAfEHKAfKYAfLAfMAfNAfOpINfPAfEHPAfSApHAfTAfEHTAfTSAfEHTSAfTˈfDHAfUfWAfKHAfGHAfZApHA#104D8oriAjIfNjHbBRAbCHAbEHCHAjjINbHAjYAbIbKAbEHKAbKYAbLAbMAbNAbOjINbP",
  "AbEHPAbSAjHAbTAbEHTAbTSAbEHTSAbTˈbDHAbUbWAbKHAbGHAbZAjHA#10500aELBASAN iAcBEcCEgHEcDEcNDEcDHEcEIgcFEcGEgJEcHEcIcJEcKEcLEgLEcMEcNEgAgJEcOcPEcQEcREgREcSEgHEcTEgHEcUcVEcXEcYcZEgHEcGHEkAMMAcKHE#10530aCAUCASIAN ALBANIAN iALTvBETvGIMvDATvEBvZARLvEYNvZHILvTASvCHAvYOWDvZHAvIRBvˈvLANvIʺvXEYNvDYANvCARvJHOXvKARvLYITvHEYTvQAYvAORvCHOY%I!YAYvMAQvQARvNOWCvDZYAYvˈKvJAYNvONvTYAYvFAMvDZAYvCHATvPENvGHEYSvRATvSEYKvVEYZvTIWRvSHOYvIWNvCYAW!AYNvYAYDvPIWRvKIW#1056FbCITATION =aVITHKUQI wiAhBBEqEhCEqHEhDEqHEhEIqhFEhGA#1057ChHAqHAhIqJEhJEhKAhLAqLAhMEhNEqJEhOhPEhQAhRE#1058ChSEqHEhTEqHEhUhVEhXE#10594hYhZE#10597$riApBBElEpCElHEpDElHEpEIlpFEpGA#105A3pHAlHApIlJEpJEpKApLAlLApMEpNElJEpOpPEpQApRE#105B3pSElHEpTElHEpUpVEpXE#105BBpYpZE#10600aʄAR A @AB001m2m3m4m5m6m7m8m9k10m1m3m6m7k20m1bFbMm2bFbMm3bMm4m6m7m8c028BcB029k30m1m4m7",
  "m8m9k40m1m4m5m6m7m8m9k50m1m3m4m5m6m7m8m9k60m1m5m6m7m9k70m3m4m6m7m8m9k80m1m2m5m6m7c100-102cB118k20c120BcB122m3k31AbBc131CcB164k71k80m8k91c301k2k3k4k5k6k7k8k9AmBmCg10k1k2k3AmBmCk4k5k6k7k8k9g20k1k2k3k4k5k6k7k8k9g30k1k2k3k4k5k6k7k8k9g40k1k2k3k4k5k6k7k8k9g50k1k2k3k4k5k6k7k8k9g60k1k2k3k4k5k6k7k8k9g70k1c400-VASk1-VASk2-VASk3-VASk4-VASk5-VASk6-VASk7-VASk8-VASk9-VASg10-VASk1-VASk2-VASk3-VASk4-VASk5-VASk6-VASk7-VASk8-VASc501k2k3k4k5k6k8k9g10k1k2k3k5k6g20k1k3k4k5k6k7k8k9g30k1k2k4k5k6k7k8k9g40k1k2k5k7k8k9g50k1k2k3k4k5k6k7k9g63k4k5k6k8k9g70k1k2k3k4k5k6k7k8k9g80k1k2k3k4k5k6k7k8k9g91k2k4k5k6k8c600k1k2k3k4k6k8k9g10k1k2k3k4k5k6k7k8k9g20k1k2k3k4k6k7k8k9g34k7k8g40k2k3k4k5k6k8k9g51k2k3k4k5k6k7k8k9g60k1k2k3k4#10740c701 Ak2 Bk3 Dk4 Ek5 Fk6 Hk7 Jk8 Kk9 Lm-2 L2b3 L3b4 L4b6 L6g10 Wk1 Xk2 Yk3 ʉk4 ABBk5 BBk7 DDg26 E",
  "YYYg32 JE#10760c800k1k2k3k4k5k6k7#10780aȊirwAAkUPERɉȀʧ%ƺȀʧkMALL AEpwBpB dǶ#10787pDZ ʈt dưĦCURLlEZH ʈl dȵ&Ƕ; xȵpƦEpȖƦǴEpFENG ʈpRAMS HORNpwGpG dǶpwG dǶpH dƜpwHpHENG dǶpʓLESS J dƜ xǶpLS ʈlZ ʈl dBELTpwL dBELTpL dư xBELTlEZHv dưpƵY+ dBELTpO dƜpwOElLOSED ʉpQpƵR dǬLEGĬ xưpR dȵ&FISHǶpwRpTC ʈ dCURLlS ʈt dưlESH ʈl dưpV d:Ƕ#107B2pwYgȓSʐdƜgƦȓSʐdƜgBILABIAL CLICKgDENTAL CLICKgLATERAL CLICKgALVEOLAR CLICKgRETROFLEX CLICK dưgrS dCURL#10800aCYPRIOT ɏAkEkIkOkUkJA#10808mO#1080AkKAmEmImOmUkLAmEmImOmUkMAmEmImOmUkNAmEmImOmUkPAmEmImOmUkRAmEmImOmUkSAmEmImOmUkTAmEmImOmUkWAmEmImO#10837kXAmE#1083CkZA#1083FmOaIMPERIAL ARAMAIC iALEPHhBETHhGIMELhDALETHhHEhWAWhZAYINhHETHhTETHhYODHhKAPHh˓hMEMhNUNh˭hAYINhPEhSADHEhQOPHhRESHhSHINhTAW#10857kɣ>kǇ[hȒqǘqENqɷh[ ƫ%ƞhˬ ƞaPALMYRENE iALEPHkBETHkGIMELkDALETHkHEkWAWkZAYINkHETHkTETHkYO",
  "DHkKAPHk˓kMEMkǫNUNkNUNk˭kAYINkPEkSADHEkQOPHkRESHkSHINkTAWuFT-ƏFLEURON,ǆ-ƏFLEURON,Ǉ[kȒmǘk~mɊkˬmɷaNABATAEAN iǫALEPHkALEPHkǫBETHkBETHkGIMELkDALETHkǫHEkHEkWAWkZAYINkHETHkTETHkǫYODHkYODHkǫKAPHkKAPHkǫ˓k˓kǫMEMkMEMkǫNUNkNUNk˭kAYINkPEkSADHEkQOPHkRESHkǫSHINkSHINkTAW#108A7,Ǉ[kȒmǘk~,CRUCIʮǇ~,ǇFɊkˬmɷk[ ƫ#108E0aHATRAN iALEPHeBETHeGIMELeDALETH-RESHeHEeWAWeZAYNeHETHeTETHeYODHeKAPHe˓eMEMeNUNe˭eAYNePEeSADHEeQOPH#108F4eSHINeTAW#108FBzǇ[eFɊeˬcɷe[ ƫaPHOENICIAN iALFmBETmGAMLmDELTmHEmWAUmZAImHETmTETmYODmKAFmLAMDmMEMmNUNmSEMKmAINmPEmSADEmQOFmROSHmSHINmTAU(Ǉ[mˬbɷm[ ƫmȒbǘ#1091F(WORD ȡaLYDIAN iAeBeGeDeEeVeIeYeKeLeMeNeOeReSSeTeUeFeQeSeTTeANeENeLYeNNeC#1093FzȀ=#10980aMEROITIC HIEROGLYPHIC iA&E&I&O&YA&WA&BAs-2&PA&MA&NAs-2+Es-2&RAs-2&LA&KHA&HHA&SAs-2+E&KA&QA&TAs-2+Es-2+O&DApƝ VIDJ;-2$CURSɊ iAhEhIhOhYAhWAhBAhPAhMAhNAqEhR",
  "AhLAhKHAhHHAhSAhɒSAhSEhKAhQAhTAqEqOhDA#109BCkȴELǩ ˫v[ HALFkLOGOGRAM RMTvIMNkǇ[hȒqǘh~qɊhɌqǩhǄhǰhˬqɷqHIRTYhFORTYqIFTYhɌTYqǩTY#109D2h[ ƫhǐƫqǘ ƫh~ ƫqɊ ƫhɌ ƫqǩ ƫhǄ ƫhǰ ƫh[ ƞhǐƞqǘ ƞh~ ƞqɊ ƞhɌ ƞqǩ ƞhǄ ƞhǰ ƞhˬ ƞqɷ ƞqHIRTY ƞhFORTY ƞqIFTY ƞhɌTY ƞqǩTY ƞhǄY ƞhǰTY ƞh[ ƫ ƞhǐƫ ƞqǘ ƫ ƞh~ ƫ ƞqɊ ƫ ƞhɌ ƫ ƞqǩ ƫ ƞhǄ ƫ ƞhǰ ƫ ƞkȴ[ TWELFTHvǐ˫!ǘ ˫v~ ˫!Ɋ ˫vɌ ˫!ǩ ˫vǄ ˫vǰ ˫vˬ ˫aKHAROSHTHI iA(Ư@IpUpƻR#10A05pEpO#10A0Ckʢ=(@^Ȇ?gǚgȢ(iKAbHAmGAbHA#10A15mCAbHAmJA#10A19mʺmTTAjHAmDDAjHAmNNAmTAbHAmDAbHAmNAmPAbHAmBAbHAmMAmYAmRAmLAmVAmˈbSAbAmZAmHAmKKAmTTTHAfAmVHA#10A38(@ɢ )gCAUDAgƮ?#10A3F(ȹ(ʆ[kȒmǘk~(Ǉˬbɷm[ ƫpƞ(ȴ[ HALF#10A50(ǸʓlrǜlǜhRESCENT ɢlMAʭLAMlLOTUSlDANDAhɂlʄS#10A60aOLD ˰ARABIAN iHEq˓qHETHqMEMqQOPHqWAWqSHINqRESHqBETHqTAWqSATqKAPHqNUNqKHETHqSADHE!MEKHqFEqALEFvYNqDHADHEqGIMELqDALETHqGHAYNqTETHqZAYNqDHALETHqYODHqTHAW!ETHmǇ[qFIF",
  "TYfERIC INDICATORĄNORTH ARABIAN iHEHqLAMqHAHqMEEMqQAFqWAWqES-2qREHqBEHqTEHqES-1qKAFqNOONqKHAHqSADqES-3qFEHqALEFvINqDADqGEEMqDALqGHAINqTAHqZAINqTHALqYEHqTHEHqZAHmǇ[qˬvɷ#10AC0aMANICHAEAN iALEPHmBETHbHETHmGIMELbHIMELmDALETHmHEmWAW(@UD(iZAYINbHAYINmJAYINbHAYINmHETHmTETHmYODHmKAPHmXAPHmKHAPHm˓mDHAMEDHmTHAMEDHmMEMmNUNm˭mAYINbAYINmPEmFEmSADHEmQOPHmXOPHmQHOPHmRESHmSHINbSHINmTAW(Ȅ= )&?#10AEB(Ǉ[mFɊmˬbɷm[ ƫ(ǸɗlFLEURONl^ƮWITHIN ʓqT WITHIN ʓvlǐʓSlȍFILLER#10B00aAVESTAN iAgAgOgAOgNgANgEkEcEgEcOgOcIgIcUgUcKEcXEgYEgVEcGEgGEgHEcCEcJEcTEgHEcDEgHEcTTEcPEcFEcBEgHEcNGEkYEkVEgEgYEgNEcMEcHMEcYYEgEcVEcREcLEcSEcZEcSHEcZHEcSHYEgSHEcHE#10B39.Ȅ=aTINY ǐǗƹ[ ƮȔarǐǗƹ[ ƮȔaȤǐǗƹ[ ƮȔo[ ƮƹǐǗȔoǐʏS ƹ[ ȆȔo[ ȆƹǐʏS ȔaINSCRIPTIONAL PARTHIAN iALEPH+BETH+GIMEL+DALETH+HE+WAW+ZAYIN+HETH+TETH+YODH+KAPH+˓+MEM+NUN+˭+AYIN+PE+SADHE+QOPH+RESH",
  "+SHIN+TAW#10B58lǇ[+Ȓsǘ+~+ˬsɷ+[ ƫyƞgHLAVI iALEPH&BETH&GIMEL&DALETH&HE&WAW-AYIN-RESH&ZAYIN&HETH&TETH&YODH&KAPH&˓&MEM-QOPH&NUN&˭&PE&SADHE+HIN&TAW#10B78pǇ[&Ȓ+ǘ&~&ˬ+ɷ&[ ƫ;ƞaPSALTER PAHLAVI iALEPHlBETHlGIMELlDALETHlHElWAW-AYIN-RESHlZAYINlHETHlYODHlKAPHl˓lMEM-QOPHlNUNl˭lPElSADHEhHINlTAW#10B99gɣ=gƵɣ=g~ Ǘdɠsʓ#10BA9gǇ[lȒhǘl~lˬhɷl[ ƫ#10C00aOLD TURKIC iȫAmȕA!EmȫImȕIvEmȫOvEmȕOEmȫABmȕABmȫAEBmȕAEBmȫAGmȕAGmȫAEGmȕAEGmȫADmȕADmȫAEDqEZmȕEZmȫAYmȕAYmȫAEYmȕAEYmȫAEKmȕAEKmȫOEKmȕOEKmȫALmȕALmȫAELqELTvMqANvENmȕAENmȫENTmȕENTmȫENCmȕENCmȫENYmȕENYvANGmȫENGmȕAENGmȫEPqOPqICqECmȕECmȫAQmȕAQmȫIQmȕIQmȫOQmȕOQmȫARmȕARmȫAERvSvESvSHmȕASHmȫESHmȕESHmȫATmȕATmȫAETmȕAETmȫOTqBASH#10C80ĄHUʭRIAN wiA+A&EB&AMB&EC+NC+CS+D&AND&E&CLOSE E&EE+F+GsY+H&I+I&EJ+K&AK&UNK&ELsY+M+NsY&O+O&NIKOLSBURG OE&RUDIMENTA OE&OEE&EP+MP+R&ǽER&ESsZ+T+NT+TY+CH&U+U&NI",
  "KOLSBURG UE&RUDIMENTA UE&EV+ZsS+NT-ʱ>&US#10CC0eriA%A!EB!AMB!EC%NC%CS%D!AND!E!CLOSE E!EE%F%G&Y%H!I%I!EJ%K!AK!UNK!EL&Y%M%N&Y!O%O!NIKOLSBURG OE!RUDIMENTA OE!OEE!EP%MP%R!ǽER!ES&Z%T%NT%TY%CH!U%U!NIKOLSBURG UE!RUDIMENTA UE!EV%Z&S%NT-ʱ>!US#10CFAeǇ[fFɊfˬfFIFTYf[ ƫqƞaHANIFI ROHINGYA iAlBAlPAlTAhTAlJAlCAlHAlKHAlFAlDAhDAlRAhRAlZAlSAhHAlKAlGAlLAlMAlNAlWAlKINNA WAlYAlKINNA YAlʭhYAlVAgƯApIpUpEpOg= SAKINfNA KHONNAg@HARBAHAYfTAHALAlNAlSSI#10D30gƣp[pȒlǘp~lɊpɌlǩpǄpǰ#10E60aRUMI ʆ[(Ȓuǘ(~uɊ(Ɍuǩ(Ǆ(ǰąǇˬnɷnHIRTYuFORTYnIFTYuɌTYnǩTYuǄYuǰTYu[ ƫuǐƫnǘ ƫu~ ƫnɊ ƫuɌ ƫnǩ ƫuǄ ƫuǰ ƫąȴ[ HALFmQUARTERmTHIRDeǐTHIRDS#10E80aYEZIDI iELIFeBEePEcHEeTHEeSEeCIMcHIMgHIMeHHAeXAeDALeZALeRAcHAeZAeJAeSINcHINcADeDADeTAeZEeEYNeXHEYNeFAeVAg ȚFORMeQAFeKAFcHAFeGAFeLAMeMIMeNUNeUMeWAWeOWeEWeHAYeYOTeET#10EABzǋɇ=kMADDA =zHYPHENATION =#10EB0ziLAM dƮ",
  ")eYOT dƧ)#10F00aOLD SOGDIAN iALEPHbǫALEPHbBETHbǫBETHbGIMELbHEbǫHEbWAWbZAYINbHETHbYODHbKAPHb˓bMEMbNUNbǫNUN% dƋȵb˭bAYINjLTERNATE AYINbPEbSADHEbǫSADHE+ dƋȵbRESH-AYIN-DALETHbSHINbTAWbǫTAW% dƋȵuǇ[bȒjǘb~jɊbˬjɷjHIRTYb[ ƫuȴ[ HALFuȉAYIN-DALETH#10F30aSOGDIAN iALEPHcBETHcGIMELcHEcWAWcZAYINcHETHcYODHcKAPHc˓cMEMcNUNc˭cAYINcPEcSADHEcRESH-AYINcSHINcTAWcFETHcLESH.ʥSHIN.ǋƮ?mǐǗ?mƮ)mǐǗ)mCURVE )h?mǶ )l?mǬǶ ?mRESH ?mƜ ?.Ǉ[cˬgɷc[ ƫ.ǸǐƋɢSĥ dʓSjƸdʓjǐǜS dʓSjƺƸdʓ#10F70aOLD UYGHUR iALEPHmBETHmGIMEL-HETHmWAWmZAYINmǫHETHmYODHmKAPHm˓mMEMmNUNm˭mPEmSADHEmRESHmSHINmTAWmLESH(ǋƮ)q?fǐǗ)+?(ǸɢlǐɢS!ʓSl~ ʓS#10FB0aCHORASMIAN iALEPHmrALEPHmBETHmGIMELmDALETHmHEmWAWmCURLED WAWmZAYINmHETHmYODHmKAPHm˓mMEMmNUNm˭mAYINmPEmRESHmSHINmTAW(Ǉ[mȒbǘm~mˬbɷm[ ƫ#10FE0aELYMAIC iALEPHcBETHcGIMELcDALETHcHEcWAWcZAYINcHETHcTETHcYODHcKAPHc˓cMEMcNUNc˭cAY",
  "INcPEcSADHEcQOPHcRESHcSHINcTAW$IGATURE ZAYIN-YODH#11000aBRAHMI @ǳuǚuȢuJIHVAMULIYAuUPADHMANIYAziAcAeIcIeUcUeƻRlRpLlLeEeAIeOeAUeKAcHAeGAcHAeʭeCAcHAeJAcHAeʺeTTAgHAeDDAgHAeNNAeTAcHAeDAcHAeNAePAcHAeBAcHAeMAeYAeRAeLAeVAeˈcSAcAeHAeLLAeOLD TAMIL LLLAhRRAhNNNAzƯ@AAmBHATTIPROLU AAmIbImUbUmƻR!RvL!LmEmAImOmAU.IRAMAzDANDA.ɂzǸʓfUBLE ʓbʄbCRESCENT ɢbLOTUS#11052zǇ[eȒcǘe~cɊeɌcǩeǄeǰeˬcɷcHIRTYeFORTYcIFTYeɌTYcǩTYeǄYeǰTYe[ ƫmƞzƣn[nȒeǘn~eɊnɌeǩnǄnǰz@OLD TAMIL ȹziOLD TAMIL ǽE+OzƯ@OLD TAMIL ǽEyOziOLD TAMIL LLA#1107FzǇJOINERaKAITHI @ǳuǚuȢziAcAeIcIeUcUeEeAIeOeAUeKAcHAeGAcHAeʭeCAcHAeJAcHAeʺeTTAgHAeDDAgDHAgHAeRHAeNNAeTAcHAeDAcHAeNAePAcHAeBAcHAeMAeYAeRAeLAeVAeˈcSAcAeHAzƯ@AAmIbImUbUmEmAImOmAUz@ȹuʴzȄ>zENUMERATION >zǇ>zɣ=z^ɣ=.ANDA.ɂzƯ@ƻR#110CDzǇ@)#110D0aSORA SOMPENG iSAHjTAHjBAHjCAHjDAHjGAHjMAHjʭHjLAHjNAHjVAHjPAHjYAHjRAHjH",
  "AHjKAHjJAHjʺHjAHjEEHjIHjUHjOHjEHjMAE#110F0nƣb[bȒjǘb~jɊbɌjǩbǄbǰ#11100aCHAKMA @ǳuǚuȢziAAeIeUeEeKAAcHAAeGAAcHAAeʭAeCAAcHAAeJAAcHAAeʺAeTTAAgHAAeDDAAgHAAeNNAAeTAAcHAAeDAAcHAAeNAAePAAcHAAeBAAcHAAeMAAeYYAAcAAeRAAeLAAeWAAeSAAeHAAzƯ@AmIbImUbUmEmAImOmAUmOIzO =zAU =zȹzMAAYYAA#11136zƣn[nȒeǘn~eɊnɌeǩnǄnǰzɣ=zDANDA.ɂzȈ=ziLHAAzƯ@AAmEIziVAA#11150aMAHAJANI iAgIgUgEgOgKAkHAgGAkHAgCAkHAgJAkHAgʺgTTAmHAgDDAmHAgNNAgTAkHAgDAkHAgNAgPAkHAgBAkHAgMAgRAgLAgVAgSAgHAgRRA$@ʴ$Ȅ>$ɣ=$ȉSHRI#11180aˈRADA @ǳnǚnȢ.iAgAcIgIcUgUcƻRhRlLhLcEcAIcOcAUcKAgHAcGAgHAcʭcCAgHAcJAgHAcʺcTTAkHAcDDAkHAcNNAcTAgHAcDAgHAcNAcPAgHAcBAgHAcMAcYAcRAcLAgLAcVAcˈgSAgAcHA.Ư@AAbIjIbUjUbƻR%R!L%LbEbAIbObAU.@ȹnɤnJIHVAMULIYAnUPADHMANIYA.OM.DANDA$ɂ.Ȅ>.ȡ$ANDHI =$IGN ʴ.ƯȊ=.EXTRA ǽƯ=.SUTRA =.Ư@PRISHTHAMATRA E.@ƭǳ.ƣe[eȒcǘe~cɊeɌcǩeǄeǰ.EKAM.@SIDDHAM.ȮƜ.CONTINUATION >.ɣ=",
  "-1f2#111E1āINHALA ɒʆ[pȒlǘp~lɊpɌlǩpǄpǰgǇˬhɷhHIRTYlFORTYhIFTYlɌTYhǩTYlǄYlǰTYl[ ƫ!ƞ#11200aKHOJKI iAcAeIeUeEeAIeOeAUeKAcHAeGAcGAcHAeʭeCAcHAeJAcJA#11213eʺeTTAgHAeDDAgHAeNNAeTAcHAeDAcDDAcHAeNAePAcHAeBAcBAcHAeMAeYAeRAeLAeVAeSAeHAeLLAzƯ@AAmIbImUmEmAImOmAUz@ǚuȹuʴuˈDDAzDANDA.ɂzWORD ȡzɣ=z^ɣ=zȄ>z@SUKUN#11280aMULTANI iAcIcUcEcKAgHAcGA#11288gHA#1128AcCAgHAcJAgJA#1128FcʺcTTAkHAcDDAkDAkHAcNNAcTAgHAcDAgHAcNAcPAgHAcBA#1129FgHAcMAcYAcRAcLAcVAcSAcHAcRRAgHA.ɣ=#112B0aKHUDAWADI iAmAkImIkUmUkEkAIkOkAUkKAmHAkGAmGAmHAkʭkCAmHAkJAmJAmHAkʺkTTAbHAkDDAbDAkRRAkDDHAkNNAkTAmHAkDAmHAkNAkPAmHAkBAmBAmHAkMAkYAkRAkLAkVAkˈmAkHA,@ǚ,Ư@AAfIpIfUpUfEfAIfOfAU,@ʴcȹ#112F0,ƣg[gȒkǘg~kɊgɌkǩgǄgǰ#11300aGRANTHA @ǋǚ )eANDRABINDUnǚnȢ#11305.iAgAcIgIcUgUcƻRlL#1130FcEEcAI#11313cOOcAUcKAgHAcGAgHAcʭcCAgHAcJAgHAcʺcTTAkHAcDDAkHAcNNAcTAgHAcDAgHAcNA#113",
  "2AcPAgHAcBAgHAcMAcYAcRA#11332cLAgLA#11335cVAcˈgSAgAcHA#1133BaǋBINDU ?aGRANTHA @ʴnɤ.Ư@AAbIjIbUjUbƻR%R#11347bEEbAI#1134BbOObAU.@ȹ#11350.OM#11357.AU ʢ=#1135D.@PLUTA.iVEDIC ǚf^ǚgOCALIC RRlLL.Ư@ƻL%L#11366aǋGRANTHA ƣh[hȒqǘh~qɊhɌ#11370miAqKAqNAqVIqPA#11400aNEWA iAnAuInIuUnUuƻRfRjLfLuEuAIuOuAUuKAnHAuGAnHAuʭeHAuCAnHAuJAnHAuʺeHAuTTAeHAuDDAeHAuNNAuTAnHAuDAnHAuNAnHAuPAnHAuBAnHAuMAnHAuYAuRAnHAuLAnHAuWAuˈnSAnAuHAąƯ@AAgIkIgUkUgƻRqRhLqLgEgAIgOgAUą@ȹ,ǳ,ǚ,Ȣ,ʴ,ɤ,ǫǚąOMąSIDDHIąDANDAoɂąȿąGAP FILLERąȄ>ąƣ([(Ȓuǘ(~uɊ(Ɍuǩ(Ǆ(ǰoOUBLE ȿąPLACEHOLDER =#1145DąINSERTION >ąSANDHI =ąiVEDIC ǚą@JIHVAMULIYA,UPADHMANIYA#11480aTIRHUTA ANJI.iAgAcIgIcUgUcƻRhRlLhLcEcAIcOcAUcKAgHAcGAgHAcʭcCAgHAcJAgHAcʺcTTAkHAcDDAkHAcNNAcTAgHAcDAgHAcNAcPAgHAcBAgHAcMAcYAcRAcLAcVAcˈgSAgAcHA.Ư@AAbIjIbUjUbƻR%R!L%LbEbǽEbAIbObǽObAU.@ǳnǚnȢcRAMAnʴnɤ.GVANG.Ȅ>.",
  "OM#114D0.ƣe[eȒcǘe~cɊeɌcǩeǄeǰ#11580aSIDDHAM iAgAcIgIcUgUcƻRhRlLhLcEcAIcOcAUcKAgHAcGAgHAcʭcCAgHAcJAgHAcʺcTTAkHAcDDAkHAcNNAcTAgHAcDAgHAcNAcPAgHAcBAgHAcMAcYAcRAcLAcVAcˈgSAgAcHA.Ư@AAbIjIbUjUbƻR%R#115B8bEbAIbObAU.@ǳnǚnȢcRAMAnʴnSIDDHAM.DANDA$ɂ.ȡ ʓmɢ.REPETITION =-1h2h3.ʬǭTEXT =.ɣ= dTRIDENT xU-ʱǊSĦȗCRESCENTSvRAYS xȗCRESCENTSĪ^CRESCENTSĪǹCRESCENTSf^ʏt dRAYSfd^CRESCENTSvǹCRESCENTSvɾCRESCENTSvSEPTUPLE CRESCENTSvǜS xRAYSĦǐENCLOSURESĦ~ ENCLOSURES.iTǘ-ƸȚIgWO-ƸȚIĥIcȚU.Ư@ȚU+U#11600aMODI iAnAuInIuUnUuƻRfRjLfLuEuAIuOuAUuKAnHAuGAnHAuʭuCAnHAuJAnHAuʺuTTAeHAuDDAeHAuNNAuTAnHAuDAnHAuNAuPAnHAuBAnHAuMAuYAuRAuLAuVAuˈnSAnAuHAuLLAąƯ@AAgIkIgUkUgƻRqRhLqLgEgAIgOgAUą@ǚ,ȢuRAMA,ARDHACANDRAąDANDAoɂąȄ>ą@HUVA#11650ąƣ([(Ȓuǘ(~uɊ(Ɍuǩ(Ǆ(ǰ#11660ĂNGOLIAN BIRGA dǊ,ˀBIRGA,^BIRGA dǊ,ǹBIRGA dǊ,BIRGA d^Ǌ,ˀBIRGA dǊ&^Ǌ,ƭBIRGAh d^Ǌ,SWIRL BIR",
  "GAf dǊ!^Ǌ,ƵSWIRL BIRGA d^Ǌ#11680aTAKRI iAeAnIeInUeUnEnAInOnAUnKAeHAnGAeHAnʭnCAeHAnJAeHAnʺnTTAcHAnDDAcHAnNNAnTAeHAnDAeHAnNAnPAeHAnBAeHAnMAnYAnRAnLAnVAnˈeAnHAnRRAo@ǚ(ȢoƯ@AAkImIkUmUkEkAIkOkAUo@ȹ(ʴoiɒKHAoȄ>#116C0oƣu[uȒnǘu~nɊuɌnǩuǄuǰ#11700aAHOM iKAnHAuʭnAuTAuȚTAuPAnHAuBAuMAuJAuCHAuTHAuRAuLAuSAuʺuHAuAuDAnHAuGAuȚGAuGHAuBHAuJHAuȚBA#1171DąȌ@MEDIAL LA!RA!LIGATING RAąƯ@AkAgIkIgUkUgEgAWgOgAIkMą@KILLER#11730ąƣ([(Ȓuǘ(~uɊ(Ɍuǩ(Ǆ(ǰąǇˬnɷą@rSECTION(ECTION,RULAIoYMBOL VIąiCAuTTAeHAuDDAeHAuNNAuLLA#11800aDOGRA iAeAnIeInUeUnEnAInOnAUnKAeHAnGAeHAnʭnCAeHAnJAeHAnʺnTTAcHAnDDAcHAnNNAnTAeHAnDAeHAnNAnPAeHAnBAeHAnMAnYAnRAnLAnVAnˈeSAeAnHAnRRAoƯ@AAkImIkUmUkƻRvRkEkAIkOkAUo@ǚ(ȢnRAMA(ʴoȄ>#118A0aWARANG CITI wiʭA!A!WI!YU%A%O!II!UU!E!O!ANG!GA!KO!ENY!YUJ!UC!ENN!ODD!TTE!NUNG!DA!AT%M!BU!PU!HIYO%OLO&RR%AR!SSUU%II!VIYOuriʭAqAqWIqYUv",
  "AvOqIIqUUqEqOqANGqGAqKOqENYqYUJqUCqENNqODDqTTEqNUNGqDAqATvMqBUqPUqHIYOvOLO!RRvARqSSUUvIIqVIYOuƣm[mȒbǘm~bɊmɌbǩmǄmǰuǇˬjɷjHIRTYbFORTYjIFTYbɌTYjǩTYbǄYbǰTY#118FFuOMaDɊS AKURU iAjAbIjIbUjUbE#11909bO#1190CbKAjHAbGAjHAbʭbCAjHAbJA#11915bʺbTTA#11918bDDAfHAbNNAbTAjHAbDAjHAbNAbPAjHAbBAjHAbMAbYAjYAbRAbLAbVAbˈjSAjAbHAbLLAbZAuƯ@AAlIhIlUhUlE#11937lAIlO#1193Bu@ǚkǳkHALANTAuȹuPREFIXED NASAL >uMEDIAL YAuˡRAuMEDIAL RAu@ʴuDɂuGAP FILLERuʬǭTEXT =#11950uƣm[mȒbǘm~bɊmɌbǩmǄmǰ#119A0aNANDINAGARI iAjAbIjIbUjUbƻR%R#119AAbEbAIbObAUbKAjHAbGAjHAbʭbCAjHAbJAjHAbʺbTTAfHAbDDAfHAbNNAbTAjHAbDAjHAbNAbPAjHAbBAjHAbMAbYAbRAbLAbVAbˈjSAjAbHAbLLAbRRAuƯ@AAlIhIlUhUlƻRtR#119DAlElAIlOlAUu@ǚkȢbRAMAkɤkSIDDHAMuȮƜuƯ@PRISHTHAMATRA E#11A00aZANABAZAR ǃiAkƯ@I%UE&%E%OE&%AI&U%ƦIlʢ=kiKAqHAhGAqHAhʭhCAqHAhJAhʺhTTAvHAhDDAvHAhNNAhTAqHAhDAqHAhNAhPAqHAhBAqH",
  "AhMAhTSAvHAhDZAvHAhZHAqAh-AhYAhRAhLAhVAhˈqSAqAhHAhKSSAkǫȌ=k@ȹpǳ; dǊ% dǊpǚpȢkCLUSTER-ˡiRAqǫiYAĦRAĦLAĦVAkˡȮ =kCLOSING Ȯ =k= TSHEGpˈDp^ˈDpǬTSHEGkˡȥ-ʄD Ȯ =kCLOSING ȥ-ʄD Ȯ =kSUBJOINER#11A50aSOYOMBO iA.Ư@IbUEjbEbOjEbAIjUbƻR!Leʢ=.iKAgHAcGAgHAcʭcCAgHAcJAgHAcʺcTTAkHAcDDAkHAcNNAcTAgHAcDAgHAcNAcPAgHAcBAgHAcMAcTSAkHAcDZAcZHAgAc-AcYAcRAcLAcVAcˈgSAgAcHAcKSSA.@JIHVAMULIYAnUPADHMANIYA.CLUSTER-ˡiRAsLAsˈtA.ǫȌ@G&K&NG&D&N&B&M&R&L&SH+&-A.@ǚnȢ.GEMINATION =.SUBJOINER.= TSHEGnˈDn^ˈDnPLUTA.Ȯ = d˴xSUN xǹFLAMEĨFLAMEģ.TERMINAL =-1p2#11AB0aCANADIAN SYLLABICS NATTILIK HI+I&O+O&A+A%SHRItIsOtOsAtAbSPEfIfOfAaPAU CIN HAU iPAbKAbLAbMAbDAbZAbVAbʭbHAbGAbKHAbSAbBAbCAbTAjHAbNAbPHAbRAbFAbCHAbAbEbIbObUjAbIAbǫPqKqTqMqNqLqWqNGqYuʿT[ LONGluSANDHI ȓSTOPuʿT[ ǬFINALhFINALuSANDHI ȓSʐFINALbT[ LONGll ǬFINALhFINALuMID-LEVEL T[uȓSʐȬNTuMID-L",
  "EVEL T[ ǬFINAL!FINALuLOW-FALLING T[ LONG%uȓSTOPuLOW-FALLING T[ ǬFINAL&FINALuȓSʐFINAL#11C00aBHAIKSUKI iAmAkImIkUmUkƻRvRqL#11C0AkEkAIkOkAUkKAmHAkGAmHAkʭkCAmHAkJAmHAkʺkTTAbHAkDDAbHAkNNAkTAmHAkDAmHAkNAkPAmHAkBAmHAkMAkYAkRAkLAkVAkˈmSAmAkHA,Ư@AAfIpIfUpUfƻR+R&L#11C38fEfAIfOfAU,@ǳcǚcȢkRAMAcɤ,DANDA(ɂ,WORD ȡ,GAP FILLER-1f2#11C50,ƣg[gȒkǘg~kɊgɌkǩgǄgǰ,Ǉ[kȒmǘk~mɊkɌmǩkǄkǰkˬmɷmHIRTYkFORTYmIFTYkɌTYmǩTYkǄYkǰTY,ƫS UNIT =#11C70aMARCHEN Ȯ =.= ˈD.iKAgHAcGAcʭcCAgHAcJAcʺcTAgHAcDAcNAcPAgHAcBAcMAcTSAkHAcDZAcWAcZHAgAc-AcYAcRAcLAcˈgAcHAcA#11C92.SUBJOINED iKAvHAqGAqʭqCAvHAqJAqʺqTAvHAqDAqNAqPAvHAqBAqMAqTSA!HAqDZAqWAqZHAvA#11CA9qYAqRAqLAqˈvAqHAqA.Ư@AAbIbUbEbO.@ǚnǳ#11D00ĂSARAM GONDI iApAfIpIfUpUfE#11D08fAIfO#11D0BfAUfKApHAfGApHAfʭfCApHAfJApHAfʺfTTAlHAfDDAlHAfNNAfTApHAfDApHAfNAfPApHAfBApHAfMAfYAfRAfLAfVAfˈpSApAfHAfLLAfKSS",
  "AfJʺfTRAeƯ@AAqIvIqUvUqƻR#11D3AqE#11D3CqAIqO#11D3FqAUe@ǚbȢbʴbCANDRAbHALANTAeȹeREPHAcA-KARA#11D50eƣj[jȒfǘj~fɊjɌfǩjǄjǰ#11D60aGUNJALA GONDI iApAfIpIfUpU#11D67fEEfAI#11D6AfOOfAUfYAfVAfBApHAfMAfKApHAfTApHAfLAfGApHAfDApHAfNAfCApHAfTTAlHAfLLAfJApHAfDDAlHAfʭfPApHAfHAfRAfSAeƯ@AAqIvIqUvU#11D90qEEqAI#11D93qOOqAUe@ǚbȢeȹeOM#11DA0eƣj[jȒfǘj~fɊjɌfǩjǄjǰ#11EE0aMAKASAR iKAcGAcʭcPAcBAcMAcTAcDAcNAcCAcJAcʺcYAcRAcLAcVAcSAcA.ANGKA.Ư@IbUbEbO.PASSIMBANG.ʬǭSECTION#11FB0aLISU iYHA#11FC0aTAMIL ȴ[ Tǘ-ƫ-AND-TWENTIETHb[-ƫ-AND-ɌTIETHbǄIETHbɌTY-~THbFORTIETHbTHIRTY-SECONDcƽǄIETHSfɌTY-~THSc[ TWENTIETHbɌˍTH-1&2bˬTHbǄHcƽTWENTIETHSfɌˍTHSc[ FIFTHbQUARTERbHALF-1h2cƽQUARTERScˎSCALING FACTʒKIIZHo@NEL(CEVITU(AAZHAAKKU(UZHAKKU(MUUVUZHAKKU(KURUNI(PATHAKKU(MUKKURUNI(KAACU(PANAMuON(VARAAKAN(PAARAM(KUZHI(VELIoWET CULTIVATION >oDRY CULTIVA",
  "TION >oLx>oSALT PAN >oTRADITIONAL CREDIT >mǇ>oCURRENT >oxODD >oSPENT >oTOTAL >oIN POSSESSION >oɗTING FROM >zIGN MUTHALIYA(VAKAIYARAA#11FFFoǸʬǭTEXTaCUNEIʮ@Ag ƢAlBADlGAN2 ʑlHAlIGIlLAGAR ɟlMUSHlSAGg2gBk ƢASH2hDUN3 ɟhGALvN2 ʑhHAhIGI ɟqMINhLAGABhSHESHhU ƳU ƳUmɟk2m ƢBALAGqGAN2 ʑqME ƳENqˈ3qTAK4gDgKk ƢERIN2hSHITA ƳGISHgLk ƢALhDIM2hGISHhHAhKAD3qIhSHEhUSHkANkEPHgMARb ƢSHEgNk ƹANmƽTIMESmƳNAGA OPPOSING AN ƳNAGA%ǤDkSHEgPINgRADb ƢKURkKABgSAL2kHm ZIDA ʑbKABA ʑbƹASH TUG2 ƹTUG2 TUG2 ƹTUG2 PAP%ƹASHĤ ǵASH ƹASH ƹASHm2mGABcBAkDkG3kHAR2kLm ƹBALmAGkRmA2gIk ƢAhGARhIGI ɟgUk ƹBU ABvUNmǵBUkLUGj ƹBULUGkRm2cDAkGm KISIM5 ƢA ƳMASH;MARtBALAG;ItGAy ƳMASH;IyR2;UDtHAtIRy ƳLUtKAKtLA;Uy ƳMASH2yMtNEtPAP ƳPAPtSItTAK4tU2 ƳGIR2;SHkMkRmA3b4gIkBkMm ƢSHEm2kNm KASKAL U ɟ DISHkSHgUk ƹDUmɟmSHESHIGkBm ƢESH2m2kGmUDkHkNm3b ɟh ɟm4kR2cEg ƢP",
  "APkƹE NUN ƹNUNg2k ƢA ƳHA ƳDAhGARhMIhSALqHEhUgDINgGIRgLgNk ƢGAN2% ʑhMEmǵENmOPPOSING ENmǤDgRENkIN2gSH2gZENb ƢA! ƳLALĤ ƢLAL!NvBADvDUN3 ɟģ ɟvHA% ɟvIGI ɟvKASKALt ǤD!U3vLA%L ƢLAL!I!UvU2!DcGAk ɟk2m ƢA ƳDA ƳHAtHAtIGIvB2 ʑ ƳTABvNvSH%2 ƳGALqBAD!R ƳRAvUR% ƳRAqDAvI!M ƢSHEvUBqEL! ƳLAvN! ƢGAN2 ʑqGAN2 ʑ!RvI!4% ƳA!R2 ƳSUqHA ƳLU ƳESH2!L% ƳLAvI ƳLIvUB2qIGI ɟvSH ƳHU ƳASHqKAK!SKALvID% ƳLALvU3 ƳANqLAqME ƳENvIqNUN% ƹNUNqPAqSAL!RvHE% ƳTUR!IDvUMqTAK4qUvD! ƳDUbƹGA2kBAb ǵGABAkDm ƹGAD GAR ƹGARkLm GAD ƹGAD GAR ƹGARmAMkMkNm2b ʑjƹGAN2jǵGAN2kRm3kˈNgESHTINp ƢKURgIk ƢEhUmǵGIk4m ƹGI4bǵGI4kDIMkR2b ɟm3b ƢA ƳIGIvGAN2 ʑvIGIvLU ƳIGIvPAkSALmHb ǵGISHjƢBADvTAK4fENUgUk ǵGUk2m ƢKAK% ƢIGI ɟqNUNqSAL ƳTUG2bɟkDm ƢA ƳKURqKURbƹGUD LUGALkLkMm ƢSHEkRm7mUNbSHcHAk ʑmɟkLgIk ƢASH!2hBADhDISHhGADhKINhNUNhSHEhUgUkB2b ƢANvHALvKASKALvLISHvUDkL2cIg A",
  "gBgDIMb ƹIDIM BUR+ǤDgGkIm DIBbRIbƹIGI SHIR ƹSHIR UD ƹUDbɟgLk ƢGAN2 ʑk2gMk ƢTAK4mǵIMmOPPOSING IMmǤDkINgNgRgSHcKAk ƢAqDv ƳKU3qSH2hBADvLAGvRqIhERIN2qSH2hGAvLvN2 ʑvR! Ƴˈ3 ƳAqIvR2vSH ƳSAR&ǵGISHqUvR7hIGIqMhKAKqIvDhLIqUhMEv ƳDUtGItTEqIv ƳNUNUZhNEqUNhPIhRUhSAvRqHAvEvIDvUqIGqUHURhTARhUq2qDqMUM ƢPAqSHhZIk2m ǵKA2kBkD2m3m4m5b ƹKAD5kKm ƢIGI ɟkLm ƢBADbǵKALkM2m4kSKALf LAGAB ƢU ƹLAGAB ƢUpƹKASKAL LAGAB ƢU ƹLAGAB ƢUgESH2gIk ƢBADhUqDkDkNkSALmHmIM5f ƹKISIM5gUk ƹHI ƢASH2 KU ƹHI ƢASH2k3k4m Ȭ˝k7kLm ɟkNkRm OPPOSING KURkSHU2gWU318cLAkGABj ƢA% ƳDA ƳHAyGARyLAL%L%N%SH ZIDA ʑ!BAD%I!DAR!EN!GA&R%UD+ ƳGUD!HA&L%I ƢNUN!IGI ɟ%M& ƳHAģLU!KI&N%U3&L+ ƳHI ƳA!LAGAB%ISH%U&L!ME& ƳEN%USH!NE!SHE ƳSUM&ITA ƳGISH ƳERIN2īʑ&U2s ƳSHU2%UM!TAG&K4%E ƳA ƳSU ƳNA!U% ƳAyU ƳU%2 ƳASH%D%SHfǤDbRj ƢSHE+ ƳSUMfɟq ƹLAGAR ɟ SHEkHSHUkLm ƢLALkMm ƢKUR% ƳRUgI",
  "kLkMMU2kSHgUk ƢBADk2m ƢALqBADqESH2& ʑqGAN2 ʑqHI ƢBADqIMqKAD2%3& ƳASHvIqLA ƳASH!GABqME ƳENqNEvUqSI ƳASH!K2 ƳBUqTUG2jENUbǵLU2bOPPOSING LU2bǤDjHESHIGk3kGALj ƹLUGALpPPOSING LUGALfSHESHIGkHkLkMm ƹLUM! GAR ƹGARcMAk ƢTAK4mɟk2kHkRkSHb2gEkSgIkNgUk ƹMUkGm ɟkNSUBkRGU2kSHb ƢAvKURvZAjƹMUSH& ƢA ƳNAjǵMUSHb3j ƢA% ƳDI!DIfɟcNAk2kGAb INVERTEDjƢSHU ʑjOPPOSING NAGAbRkM NUTILLUmm2gEk ƢAhUDmSHESHIGgIk ƢEk2kMm ƢGAN2 ʑ!R ƳGAN2 ʑkNDA2f ƢAN&SHs ƳASH%GUD%ME ƳGAN2 ʑ%NE&UN%SHEs ƳA ANĦSHĨ ƳASH%U2 ƳASH&SHkSAGgUk11kNm LAGAR ƢGARsMASHsSALy ƹNUN LAGAR ƢSALsUSHbʑbƹNUNbǵNUNs LAGAR ƹLAGARmUZj AB2 ƢASHGABsBIsDUGsGUDsIGI ɟsKAD3sLAsNEsSILA3sU2fKISIM5 ƢBIĤ UcPAkDkNkPgESH2gIk ƢAqBhBIqUhEhIqBhUq2mǵPIkRIGj ƢKAL!UD!ZAfOPPOSING PIRIGcRAkBgIgUcSAkG NUTILLUmm ƢAqDU!BqHAqKAKvURqLUMqMIqNUNqSALvHIDqTABqU2vBvMvRvSHbƹSAGbɟkLm LAGAB ƢASH2kʭ2kR",
  "gHAm3b ƢAvBADvGISHvNEvSHU2vTURvU! ƳAm6mB6mR2kEm HUbƹSHE GAD ƹGAD GAR ƹGAR%TAB ƹTAB GAR ƹGARmG9mNmSHj2jLAMkIDb ƢAvIMmMb ƢAvBAL!ULUGvDINvGARvIGI& ɟvKUSHU2vLULvMUGvSALmNIGmRb ʑjƹSHIR BUR ƹBURmTAkUm ƹƭSHUm2mBURgIk ɟkGm4b ƹSIG4 SHU2kK2kLA3gUk ƹSUkDm2kHURkMmASHkRm9cTAk ɮmƢHIhMImɟkBm ƹTAB NI ƹNI DISH ƹDISHbǤDkGm ƢBIqGUDqSHE!UqTUG2qUDkK4kRgEk ɟgIk ʑkLkRm ƢTAK4bƹTIR! GAD ƹGAD GAR ƹGARgUkG2kKkMkRm ƹTUR ZA ƹZAcUg GUDkU UkƹU PA ƹPA GAR ƹGARhSUR ƹSURhU ƦƹU REVERSEDg2gBgDk KUSHU2mƢBADhMIhU ƳU ƳUħ ɟmɟmSHESHIGq ƢBADkUGgMk ƢLAGABhME ƳDAhˈ3hUkBINkUMb ƢKASKALvPAgNk ɟgRk ǵURmSHESHIGk2m ƢA ƳHAtNAvLqHAqNUNqU2! ƳASH;BIk4kIm3kUm ƢAvSHGABqɢqDUNqGA!L!N2 ʑ!RvUqHAqIGIvMvSHqKIqLUMqMINqPAqSHEvIG4qTUqU ƳGUDvDvRUDAmDAj ƢUgSHm ƢAqKU!RqTAK4mXm2mUMXgTUKIgZ3m ƢKASKALkUcZAk ʑmǤD ƢKURkGkMXgE2gIk ƹZIk3kBm KABA ʑkGkZ2gUk5m ƢAkBU",
  "RkMcKAP ELAMITEcAB ƢNUNk2 ƢAgMAR ƢKUGcDAG KISIM5 ƢU2 ƳMASHm3gISH ƳSHUgUB ƢSHEcEZEN ƢGUDvSHEcGA2 ƢAN ƳKAK ƳAvSH2gE22gIGcHUSHcKA ƢANSHEqSH3hGISHqUDhHI ƢASH2hLUMhPAhSHULhTUhUR2cLAGAB ƢGIgU2 SHESHIG ƢBADbƢESH2 ƳLALqSHUcMESHgUSH3 ƢZAcNA4gINm9mDA2 ƢBAL%GIgU11 ƬcPESH2 ɮgIR2cSAG ƢIGI ɟcTI2cUM ƢMEg U#12400,NUMERIC @ǐASHhǘ ASHl~ ASHhɊ ASHlɌ ASHhǩ ASHlǄ ASHlǰ ASHlƽDISHl~ DISHhɊ DISHlɌ DISHhǩ DISHlǄ DISHlǰ DISHl~ UhɊ UlɌ Uhǩ UlǄ Ulǰ Ul[ GESH2lǐGESH2hǘ GESH2l~ GESH2hɊ GESH2lɌ GESH2hǩ GESH2lǄ GESH2lǰ GESH2l[ GESHUlǐGESHUhǘ GESHUl~ GESHUhɊ GESHUlǐˈR2hǘ ˈR2y Ȭ˝l~ ˈR2hɊ ˈR2lɌ ˈR2hǩ ˈR2lǄ ˈR2lǰ ˈR2l[ ˈRUlǐˈRUhǘ ˈRUy Ȭ˝l~ ˈRUhɊ ˈRUlˈR2 ƢGAL ƳDISHĬMINl[ BURUlǐBURUhǘ BURU; Ȭ˝l~ BURUhɊ BURUlƽȬ˝ ESH16ĭ21l~ Ȭ˝ LIMMUĮ4Į AįBlɌ Ȭ˝ ASH9hǩ Ȭ˝ IMIN3Į AįBlǄ Ȭ˝ USSUĮ3lǰ Ȭ˝ ILIMMUį3į4į AlǐASH ʑhǘ ASH ʑl~ ASH ʑhɊ ASH ʑlɌ A",
  "SH ʑl[ BAN2lǐBAN2hǘ BAN2l~ BAN2t Ȭ˝hɊ BAN2t Ȭ˝lNIGIDAMIN&ESHl[ ESHE3lǐESHE3l[ THIRD DISHlǐTHIRDS DISHlȠɌTHS DISHl[ THIRD Ȭ˝ AlǐTHIRDS Ȭ˝ Al[ ǄH ASH!ȧASHhLD ASSYRIAN [ ɌTHĨQUARTERhNE ȧGUR!ƺGURlELAMITE [ THIRDsǐTHIRDSsFORTYtIFTYl~ U Ȭ˝hɊ U Ȭ˝lɌ U Ȭ˝hǩ U Ȭ˝lǄ U Ȭ˝lǰ U Ȭ˝#12470,Ǹ@OLD ASSYRIAN WORD DIVIDER!Ƌʧ!ǙʧĤTRIʧĤQUADʧ#12480,@AB ƢNUN ʑhSHU2gD ƢESH2cBAD ƢDISH ʑkHAR2 ƢAB2%NI%ZAgU ƹBU ƢNA2cDA ƢTAK4kG ƢKURgIM ƢIGIqU U Um2 ƢUDgUG ƢANSHEvSH% AT ȶqDINvUNqERIN2qGAvI!R2 ɟ!SHqHAvIqIGI ɟqKASKALvUR!SHU2s ƳKASKALqLAK-020!M% ƢKURvUH ƳGISHqMASHvESvIqNIqPIqSHEvI ɟcE2 ƢKURhPAPgRIN2 XgSH2 ǵESH2gZEN SHESHIG ƢASHyHIyIGI ɟyLAĤLyMEĤSySUjƢSUcGA2 ƢBAHAR2qDIM ɟvUG ƢIGI ɟģKASKALqERENqGA!R ƳDIyNEqHA ƳAqKUSHU2 ƳKASKALqLAM% ƢKURvUHqMUSHqNE! ƳE2;GIqSHIMqZIZ2kBA ƬgESHTIN ƢUgISH ƢGISH ǵGISHgU2 ƢIGI ɟkD ƳGISH ƢTAK4cHA ʑ ɟg",
  "I ƢASH ƹHI ƢASHcKA ƢBUhKAhU U UqRcLAGAB ƢZU ƹZUkK-003j21f5j30j50f1j62j79 ƹLAK-079 ɟj80f1 ƹLAK-081j92b130j42b210f9j20f5f8j38j65f6b343f7f8j83f4j90b441f9p ƢGU&IGI&PAP ƳLU3ĦPAP ƳLU3&U2 ƳBAj50f7j70j83j90f2f3f5b550b608j17p ƢASH&BAD&DUN3 ɟ ɟ&KU3&LA&TAR+E&U2+D+RUDAj36j48p ƢDUB&GA&IGIt ɟ&NI&PAP ƳPAP ƳLU3&SHESH ƳKI&UD+RUDAb724j49gU2 ɟ ƢASHbƢDISHqHALqPAP% ƳPAP ƳLU3qTAK4cMI ƳZA7gUSH ƹMUSH ƢGAĤKAKcNINDA2 ƢDIM ɟ%GISH&UL%HI%KESH2%LAK-050%MASH%PAP ƳPAP%U& ƳU&RUDAcSAG ɟ ƢHAbƢENqSHE AT ȶqTAK4gHA6 ʑkE ƹSHEbƳHUB2hNAM2hSARkU2 ƳDUG ƢNIqE2 ƢANgI ƢTAK4cTAK4 ƳSAGgUM ƢGAN2 ʑqƽDISHcUR2 INVERTEDbƢUDkU ƢDARA3qLAK-668vU3cZA7gU ƹZU ƳSARk5 ƢƽDISH ʑ#12F90āYPRO-MINOAN @CM001p2p4p5p6p7p8p9f10p1p2lBp3p5p7p9f21p3p4p5p6p7p8p9f30p3p4p5p6p7p8p9f40p1p4p6p7p9f50p1p2p3p4p5p6p8p9f60p1p2p3p4p6p7p8p9f70p1p2p3p4p5lBp6p8p9f80p1p2p3p4p5p",
  "6p7p8p9f90p1p2p4p5p6p7p8p9j100p1p2p3p4p5p7p8p9f10p2p4j301p2#13000aEGYPTIAN HIEROGLYPH A001l2l3l4l5hAl6hAhBl7l8l9p10l1l2l3l4hAl5l6l7hAl8l9p20l1l2l3l4l5l6l7l8l9p30l1l2hAl3l4l5l6l7l8l9p40hAl1l2hAl3hAl4l5hAl6l7l8l9p50l1l2l3l4l5l6l7l8l9p60l1l2l3l4l5l6l7l8l9p70jB001l2l3l4l5hAl6l7l8l9jC001l2hAhBhCl3l4l5l6l7l8l9p10hAl1l2l3l4l5l6l7l8l9p20l1l2l3l4jD001l2l3l4l5l6l7l8hAl9p10l1l2l3l4l5l6l7l8l9p20l1l2l3l4l5l6l7hAl8l9p30l1hAl2l3l4hAl5l6l7l8l9p40l1l2l3l4l5l6hAl7l8hAl9p50hAhBhChDhEhFhGhHhIl1l2hAl3l4hAl5l6l7l8l9p60l1l2l3l4l5l6l7hAhBhChDhEhFhGhHjE001l2l3l4l5l6l7l8hAl9hAp10l1l2l3l4l5l6hAl7hAl8l9p20hAl1l2l3l4l5l6l7l8hAl9p30l1l2l3l4hAl6l7l8jF001hAl2l3l4l5l6l7l8l9p10l1l2l3hAl4l5l6l7l8l9p20l1hAl2l3l4l5l6l7l8l9p30l1hAl2l3l4l5l6l7hAl8hAl9p40l1l2l3l4l5hAl6hAl7hAl8l9p50l1hAhBhCl2l3jG001l2l3l4l5l6hAl7hAhBl8l9p10l1hAl2",
  "l3l4l5l6l7l8l9p20hAl1l2l3l4l5l6hAl7l8l9p30l1l2l3l4l5l6hAl7hAl8l9p40l1l2l3hAl4l5hAl6l7l8l9p50l1l2l3l4jH001l2l3l4l5l6hAl7l8jI001l2l3l4l5hAl6l7l8l9hAp10hAl1hAl2l3l4l5jK001l2l3l4l5l6l7l8jL001l2hAl3l4l5l6hAl7l8jM001hAhBl2l3hAl4l5l6l7l8l9p10hAl1l2hAhBhChDhEhFhGhHl3l4l5hAl6hAl7hAl8l9p20l1l2hAl3l4hAl5l6l7l8hAl9p30l1hAl2l3hAhBl4l5l6l7l8l9p40hAl1l2l3l4jN001l2l3l4l5l6l7l8l9p10l1l2l3l4l5l6l7l8hAhBl9p20l1l2l3l4l5hAl6l7l8l9p30l1l2l3hAl4hAl5hAl6l7hAl8l9p40l1l2fL001h2h3h4h5qAh6h7h8h9l10h1h2h3h4h5h6h7qAh8h9l20fU001h2h3h4h5h6h7h8h9l10qAh1qAh2h3h4h5h6h7h8qAh9l20h1h2qAjO001hAl2l3l4l5hAl6hAhBhChDhEhFl7l8l9p10hAhBhCl1l2l3l4l5l6l7l8l9hAp20hAl1l2l3l4hAl5hAl6l7l8l9hAp30hAl1l2l3hAl4l5l6hAhBhChDl7l8l9p40l1l2l3l4l5l6l7l8l9p50hAhBl1jP001hAl2l3hAl4l5l6l7l8l9p10l1jQ001l2l3l4l5l6l7jR001l2hAl3hAhBl4l5l6l7l8l9p10hAl1l2l3l4",
  "l5l6hAl7l8l9p20l1l2l3l4l5l6l7l8l9jS001l2hAl3l4l5l6hAl7l8l9p10l1l2l3l4hAhBl5l6l7hAl8l9p20l1l2l3l4l5l6hAhBl7l8l9p30l1l2l3l4l5hAl6l7l8l9p40l1l2l3l4l5l6jT001l2l3hAl4l5l6l7hAl8hAl9hAp10l1hAl2l3l4l5l6hAl7l8l9p20l1l2l3l4l5l6l7l8l9p30l1l2hAl3hAl4l5l6jU001l2l3l4l5l6hAhBl7l8l9p10l1l2l3l4l5l6l7l8l9p20l1l2l3hAl4l5l6l7l8l9hAp30l1l2hAl3l4l5l6l7l8l9p40l1l2jV001hAhBhChDhEhFhGhHhIl2hAl3l4l5l6l7hAhBl8l9p10l1hAhBhCl2hAhBl3l4l5l6l7l8l9p20hAhBhChDhEhFhGhHhIhJhKhLl1l2l3hAl4l5l6l7l8hAl9hAp30hAl1hAl2l3hAl4l5l6l7hAl8l9p40hAjW001l2l3hAl4l5l6l7l8l9hAp10hAl1l2l3l4hAl5l6l7hAl8hAl9p20l1l2l3l4hAl5jX001l2l3l4hAhBl5l6hAl7l8hAjY001hAl2l3l4l5l6l7l8jZ001l2hAhBhChDl3hAhBl4hAl5hAl6l7l8l9p10l1l2l3l4l5hAhBhChDhEhFhGhHhIl6hAhBhChDhEhFhGhHjAA001h2h3h4h5h6h7qAqBh8h9l10h1h2h3h4h5h6h7h8h9l20h1h2h3h4h5h6h7h8h9l30h1h2#13430jƋJOINERjƘJO",
  "INERjINSERT AT ʐɗT+ȩɗT+ʐEND+ȩENDjɍ MIDDLEjBEGIN SEGMENTjʬSEGMENT#14400aANATOLIAN HIEROGLYPH A001h2h3h4h5h6h7h8h9l10qAh1h2h3h4h5h6h7h8h9l20h1h2h3h4h5h6qAh7h8h9l30h1h2h3h4h5h6h7h8h9qAl40h1qAh2h3h4h5qAh6qAqBh7h8h9l50h1h2h3h4h5h6h7h8h9l60h1h2h3h4h5h6qAqBqCh7h8h9l70h1h2h3h4h5h6h7h8h9l80h1h2h3h4h5h6h7h8h9l90h1h2h3h4h5h6h7qAh8qAh9p100qAh1qAh2qAh3h4qAqBqCh5qAqBh6h7qAqBqCh8h9l10qAqBh1h2h3h4h5qAh6h7h8h9l20h1h2h3h4h5qAh6h7h8h9l30h1h2h3h4h5qAh6h7h8h9l40h1h2h3h4h5h6h7h8h9l50h1h2h3h4h5h6h7h8h9l60h1h2h3h4h5h6h7h8h9l70h1h2h3h4h5h6h7h8h9l80h1h2h3h4h5h6h7h8h9l90h1h2h3h4h5h6h7h8h9p200h1h2qAqBh3h4h5h6h7qAh8h9qAl10h1h2h3h4h5qAh6qAh7h8h9l20h1h2h3h4h5h6h7qAh8h9l30h1h2h3h4h5h6h7h8h9l40h1h2h3h4h5h6h7h8h9l50h1h2h3h4h5h6h7h8h9l60h1h2h3h4h5h6h7qAh8h9l70h1h2h3h4h5h6h7h8h9l80h1h2h3h4h5h6h7h8h9qAl90h1h2h3h4qAh5h6h7h8h9q",
  "Ap300h1h2h3h4h5h6h7h8h9qAl10h1h2h3h4h5h6h7h8h9l20h1h2h3h4h5h6h7h8h9qAl30h1h2AqBqCh3h4h5h6qAqBqCh7h8h9l40h1h2h3h4h5h6h7h8h9l50h1h2h3h4h5h6h7h8h9qAl60h1h2h3h4qAh5h6h7h8qAh9l70h1qAh2h3h4h5h6h7h8h9l80h1qAh2h3 RA ʒRIqAh4h5h6qAh7h8h9l90h1h2h3 Ǆh4h5h6h7h8h9p400h1h2h3h4h5h6h7h8h9l10 BEGIN LOGOGRAM =qA ʬLOGOGRAM =h1h2h3h4h5h6h7h8h9l20h1h2h3h4h5h6h7h8h9l30h1h2h3h4h5h6h7h8h9l40h1h2h3h4h5h6h7h8h9l50qAh1h2h3h4h5h6h7qAh8h9l60h1h2h3h4h5h6h7h8h9l70h1h2h3h4h5h6h7h8h9l80h1h2h3h4h5h6h7h8h9l90h1h2h3h4h5h6h7p501h2h3h4h5h6h7h8h9l10h1h2h3h4h5h6h7h8h9l20h1h2h3h4h5h6h7h8h9l30#16800aBAMUM iPHASE-A NGKUE MFONfGBIEE FONfPON MFON PIPAEMGBIEEĤBAfNAA MFONfSHUENSHUETfTITA MFONfNZA MFONfSHINDA PA NJIfPON PA NJI PIPAEMGBIEEĦBAfMAEMBGBIEEfTU MAEMBAfʭNGUfMAEMVEUXlNSUAEpVEUAEʭMfSEUʺMfNTOQPENfKEUKEUTNDAfNKINDIfSUUfNGKUENZEUMfL",
  "APAQpET KUTfNTAP MFAAfMAEKEUPfPAˈEfGHEUAERAEfPAMˈEfMON NGGEUAETfNZUN MEUTfU YUQ NAEfGHEUAEGHEUAEfNTAP NTAAfSISAfMGBASApEUNJOMNDEUQpOOMPUQfKAFAfPA LEERAEWAfNDA LEERAEWAfPETfMAEMKPENfNIKAfPUPfTUAEPfLUAEPfSONJAMfTEUTEUWENfMAENYIfKETfNDAANGGEUAETfKUOQfMOOMEUTfSHUMfLOMMAEfFIRIfROMfKPOQfSOQfMAP PIEETfSHIRAEfNTAPfSHOQ NSHUT YUMfNYIT MONGKEUAEQfPAARAEfNKAARAEfUNKNOWNfNGGENfMAESIfNJAMfMBANYIfNYETfTEUAENfSOTfPAAMfNSHIEEfMAEMfNYIfKAQfNˈfVEEfLUfNENpAQfMBAQbB NSHUETfTU MAEMGBIEEfSIEEpET TUfLOM NTEUMfMBA MAELEEfKIEEMfYEURAEfMBAARAEfKAMfPEESHIfYAFU LEERAEWAfLAM NSHUT ʺMfNTIEE SHEUOQpDU NJAAfGHEUGHEUAEMfPITfTU NSIEEfSHET NJAQhUAEQTUfMFON TEUAEQpBIT MBAAKETfNYI NTEUMfKEUPUQfGHEUGHENfKEUYEUXfLAANAEfPARUMfVEUMfNGKINDI MVOPlGEU MBUfWUAETfSAKEUAEfTAAMfMEUQfNGGUOQ! əfMFIYAQfSUEfMBEURIpONTIEENfʺEMAEfPUʭAMfMEUT N",
  "GGEETfFEUXfMBUOQfFEEfKEUAEMfMA NJEUAENAvUQAfLETfNGGAAMpSENfMAfKIQfNGOMbC NGKUE MAEMBApZAfYUMfWANGKUOQfNGGENpDEUAEREEpGKAQfGHARAEfMBEEKEETfGBAYIfNYIR MKPARAQ MEUNpTU MBITfMBEUMfPIRIEENfNDOMBUfMBAA CABBAGE-TREEfKEUSHEUAEPfGHAPfKEUKAQfYU MUOMAEfNZEUMfMBUEfNSEUAENfMBITfYEUQfKPARAQpAAfSEUXfNDIDAfTAAˈEfNJUEQfTITA YUEfSUAETfNGGUAEN ʺMfVEUXfNANSANAQfMA KEUAERIfNTAApGGUONfLAPfMBIRIEENpGBASAQfNTEUNGBAfTEUTEUXfNGGUMfFUEfNDEUTpSAlHAQfBUNGfVEUAEPENfMBERAEfRUfNJAEMfLAMfTITUAEPfNSUOT NGOMpJEEEEfKETfNGGUfMAESIpBUAEMfLUfKUTfNJAMpGOMfWUPfNGGUEETpSOMpˬfKUOP NKAARAEfNSUNpDAMfMA NSIEEfYAAfNDAPfSHUEQpETFONfMBIpAEMBApBANYIfKEUSEUXfMBEUXfKEUMfMBAA PICKETfYUWOQfNJEUXfMIEEpUAEfSHIQfKEN LAWqFATIGUEfʭQpAQfLIQfPINpENfTETbD MBUOfWAPfNJIfMFONfNJIEEfLIEEfNJEUTpSHEEpGGAAMAEpYAMfWUAENfNGKUNfSHEEfNGKAPfKEUAETMEUNfTEUTfSHEUA",
  "EfNJAPfSUEfKETfYAEMMAEfKUOMfSAPfMFEUTfNDEUXfMALEERIpEUTfSEUAEQfYENfNJEUAEMfKEUOT MBUAEfNGKEURIfTUfGHAAfNGKYEEfFEUFEUAETfNDEEfMGBOFUMfLEUAEPfNDONfMONIpGBEUNfPUUTfMGBIEEpFOfLUMfNSIEEPfMBAAfKWAETfNYETfTEUAENfSOTfYUWOQfKEUMfRAEMfTEEEEfNGKEUAEQfMFEUAEfNSIEETfKEUPfPIPpEUTAEfNYUEfLETfNGGAAMfMFIEEfNGGWAENfYUOMfPAPfYUOPfNDAMpTEUMfSUAEfKUNfNGGEUXlKIEEfTUOTfMEUNfKUQfNSUMfTEUNfMAENJETfNGGAPfLEUMfNGGUOMpSHUTpJUEQfGHEUAEfKUfREN OLDfTAEpOQfNYIfRIIfLEEEEfMEEEEpfSUUfMUfSHIIlEUXfKYEEfNUfSHUfNTEEfPEEfNIfSHOQfPUQfMVOPfLOQfREN MUCHfTIfNTUUfMBAA SǩfSAQfFAAbE NDAPfTOONfMBEUMfLAPfVOMfLOONfPAAfSOMfRAQfNSHUOPpDUNfPUAEfTAMfNGKAfKPEUXfWUOfSEEfNGGEUAETfPAAMfTOOfKUOPfLOMfNSHIEEpGOPfMAEMfNGKEUXlOQpSHUEfRIMGBAfNJEUXfPEEMfSAAfNGGURAEfMGBAfGHEUXfNGKEUAEMpJAEMLIfMAPfLOOTfNGGEEEEpDIQfTAEN NTEUMfSETfPUMfNDAA SOFTNESSpGGUAEˈE ",
  "ʺMfYIEEfGHEUNfTUAEfYEUAEfPOfTUMAEfKEUAEfSUAENfTEUAEQfVEUAEfWEUXfLAAMfPUfTAAQfGHAAMAEfNGEUREUTfSHEUAEQfMGBENpBEEfNZAQpKOMfGBETfTUMfKUETfYAPfNYI CLEAVERfYITfMFEUQfNDIAQfPIEEQfYUEQfLEUAEMfFUEfGBEUXfNGKUPfKETfMAEfNGKAAMIfGHETfFAfNTUMfPEUTfYEUMfNGGEUAEpYI BETWEENpZUQfPOONfMIEEfFUETfNAEfMUAEfGHEUAEfFU IfMVIfPUAQfNGKUMfKUTfPIETfNTAPfYEUAETfNGGUPfPA PEOPLEfFU CALLpOMfNJEEfAfTOQfOfIfLAQfPA PLURALfTAAlQfNDAA MY HOUSEfSHIQfYEUXfNGUAEfYUAENpOQ SWIMMINGqCOVERpUQlNfKEUXfPEUXfNJEE EPOCHfPUEfWUEfFEEfVEEfLUfMIfREUXpAEfNGUAETlAfSHOhQfFU REMEDYfNAfPIfLOQfKOfMENpAlQfTEUfKIfMONfˬfFAQfGHOMbF KAfUfKUfEEfREEfTAEfNYIfLAfRIIlEEfMEEEEfTAAfNDAApJAEMfMfSUUpHIIpIpEUXfKYEEpETfNUAElpJUAEfYOQfSHUfYAfNˈfPEUXfNTEEfWUEfPEEfRUfNIfREUXfKENfNGKWAENlGAfSHOfPUAEfFOMfWAfLIpOQfKOfMBENfRENfMApOpBAAfTETfKPAfSAMBAfVUEQ#16A40aMRO iTA(N",
  "GI(YO(MIM(BA(DA(A(PHI(KHAI(HAO(DAI(CHU(KEAAE(OL(MAEM(NIN(PA(OOu(RO(SHI(THEA(EA(WA(E(KO(LANn(HAI(RI(TEK#16A60Ąƣ,[,Ȓ(ǘ,~(Ɋ,Ɍ(ǩ,Ǆ,ǰ#16A6EąANDAąɂaTANGSA iOZcCcQcXeAZcCcQcXeVZcCcQcXeEZcCcQcXeIZcCcQcXeUZcCcQcXeAWZgCgQgXeUIZgCgQgXeǫNGeǬUEXeǽUEZjAWXeUECgZgQgXcIUZkCkQkXeMZcCcQcXeKAcHAeGAeʭeSAeYAeWAePAeʺePHAeBAeMAeNAeHAeLAeHTAeTAeDAeRAeNHAeˈeCAeTSAeGHAeHTTAeTHAeXAeFAeDHAeCHAeZA#16AC0zƣn[nȒeǘn~eɊnɌeǩnǄnǰ#16AD0aBASSA VAH iENNIkKAkSEkFAkMBEkYIEkGAHkDHIIkKPAHkJOkHWAHkWAkZOkGBUkDOkCEkUWUkTOkBAkVUkYEINkPAkWADDAkAkOmOkUkEEmkI#16AF0,ǋǡT[jǾT[jMID T[jLOW-MID T[jHIGH-ǾT[,ǈ#16B00aPAHAWH HMONG ƯKEEBpVjIBfVjAUBpVjUBfVjEBfVjAIBpVjOOBpVjAWBpVjUABpVjOBfVjIABpVjABfVjWBfVjAABpVnȌVAUlNTSAUlLAUlHAUlNLAUlRAUlNKAUlQHAUlYAUlHLAUlMAUlCHAUlNCHAUlHNAUlPLHAUlNTHAUhAUlAUlXAUlCAUn= CIM TUBpSOpKESlHAVpSUAMpHOMpTAUMn@VOS THOMlˈB C",
  "EEBmCIM CHEEMmVOS THIABpFEEMmXYEEM NTXIVhRHOhTOVhFAIBmVOS SEEVmMEEJ SUABmVOS NRUAmIB YAMmXAUSmCIM TSOV ROG#16B50nƣb[bȒjǘb~jɊbɌjǩbǄbǰ#16B5BnǇˬSjƫSjˬ ƞSjMILLIONSjƫ MILLIONSjˬ BILLIONSfRILLIONS#16B63n@VOS LUBmXYOOmHLImTHIRD-STAGE HLImZWJ THAJmHNUBmNQIGmXIABmNTUJmAVmTXHEEJ CEEVmMEEJ TSEEBmTAUmLOSmMUSmCIM HAIS LUS NTOG NTOGpCUAM TSHOOJpTXWVv CHWVpPUB DAWBpNRES TOS#16B7DnCLAN @TSHEEJlYEEGlLIShAUJlXYOOJlKOOlHAWJlMUASlTHOJhSABlPHABlKHABlHAMlVAJlFAJlYAJlTSWBlKWMlVWJ#16E40aMEDEFAIDRIN wiM!S!V!W!ATIU!Z!KP!P!T!G!F!I!K!A!J!E!B!C!U!YU!L!Q!HP!NY!X!D!OE!N!R!O!AI!YuriMqSqVqWqATIUqZqKPqPqTqGqFqIqKqAqJqEqBqCqUqYUqLqQqHPqNYqXqDqOEqNqRqOqAIqYuƣm[mȒbǘm~bɊmɌbǩmǄmǰuǇˬbELǩbTWELVEjHIRˍb~ˍjIFˍbɌˍjǩˍbǄEENbǰˍuʆ[ ȚFORMmǐȚFORMbǘ ȚFORMuȿuǈuƝ AIVAuǧOH#16F00āIAO iPAuBAuYI PAuPLAuMAnHAuɒMAuFAuVAnFAuTAuDAuYI TTAgAuTTAuDDAuNA",
  "nHAuYI NNAuɒNAuNNAeHAuLAnYAnHAeYAuTLHAuDLHAuTLHYAuDLHYAuKAuGAuYI KAuQAnGAuʭeHAuɒʭuHAuXAuGHAeHAuTSSAuDZZAuʺeHAuTˈuDZHAuYI TˈcDZHAuREFORMED TˈuˈnSAuZHAnˈuTSAuDZAuYI TSAuSAuZAnSAnZAeSAuɒZZAuZZYAeSYAuWAuAHuHHAuBRIuSYIuDZYIuTEnSEuRTE#16F4Fą@ȌȊɢąiNASALIZATIONą@ASPIRATION,REFORMED VOICINGbASPIRATIONąƯ@AkAkHHkNmGgOkOgWOkgEkNmGgOEYgIkAmNbGkOkEkIkUkNGgUkAmNbGkUkEIkNGgYkIgAEmEgERRgˠERRgERgˠERgAIgEIgAUgOUgNkGgUOGgYUIgOGkERgVWgIGgEAgIONGgUI#16F8FąT[ ǆ,ʐǆ,),?ąiT[-2k3k4k5k6k7k8uREFORMED T[-1v2v4v5v6v8#16FE0aTANGUT ʝ=aNUSHU ʝ=aOLD CHINESE Ƕ =uʝ=aKHITAN rɉFILLER#16FF0aVIETNAMESE ȚREADING = CAyNHAY#18800aTANGUT COMP[NT-001b2b3b4b5b6b7b8b9m10b1b2b3b4b5b6b7b8b9m20b1b2b3b4b5b6b7b8b9m30b1b2b3b4b5b6b7b8b9m40b1b2b3b4b5b6b7b8b9m50b1b2b3b4b5b6b7b8b9m60b1b2b3b4b5b6b7b8b9m70b1b2b3b4b5b6b7b8b9m80b1b2b3b4b5b6b7b8b9m90b",
  "1b2b3b4b5b6b7b8b9k100b1b2b3b4b5b6b7b8b9m10b1b2b3b4b5b6b7b8b9m20b1b2b3b4b5b6b7b8b9m30b1b2b3b4b5b6b7b8b9m40b1b2b3b4b5b6b7b8b9m50b1b2b3b4b5b6b7b8b9m60b1b2b3b4b5b6b7b8b9m70b1b2b3b4b5b6b7b8b9m80b1b2b3b4b5b6b7b8b9m90b1b2b3b4b5b6b7b8b9k200b1b2b3b4b5b6b7b8b9m10b1b2b3b4b5b6b7b8b9m20b1b2b3b4b5b6b7b8b9m30b1b2b3b4b5b6b7b8b9m40b1b2b3b4b5b6b7b8b9m50b1b2b3b4b5b6b7b8b9m60b1b2b3b4b5b6b7b8b9m70b1b2b3b4b5b6b7b8b9m80b1b2b3b4b5b6b7b8b9m90b1b2b3b4b5b6b7b8b9k300b1b2b3b4b5b6b7b8b9m10b1b2b3b4b5b6b7b8b9m20b1b2b3b4b5b6b7b8b9m30b1b2b3b4b5b6b7b8b9m40b1b2b3b4b5b6b7b8b9m50b1b2b3b4b5b6b7b8b9m60b1b2b3b4b5b6b7b8b9m70b1b2b3b4b5b6b7b8b9m80b1b2b3b4b5b6b7b8b9m90b1b2b3b4b5b6b7b8b9k400b1b2b3b4b5b6b7b8b9m10b1b2b3b4b5b6b7b8b9m20b1b2b3b4b5b6b7b8b9m30b1b2b3b4b5b6b7b8b9m40b1b2b3b4b5b6b7b8b9m50b1b2b3b4b5b6b7b8b9m60b1b2b3b4b5b6b7b8b9m7",
  "0b1b2b3b4b5b6b7b8b9m80b1b2b3b4b5b6b7b8b9m90b1b2b3b4b5b6b7b8b9k500b1b2b3b4b5b6b7b8b9m10b1b2b3b4b5b6b7b8b9m20b1b2b3b4b5b6b7b8b9m30b1b2b3b4b5b6b7b8b9m40b1b2b3b4b5b6b7b8b9m50b1b2b3b4b5b6b7b8b9m60b1b2b3b4b5b6b7b8b9m70b1b2b3b4b5b6b7b8b9m80b1b2b3b4b5b6b7b8b9m90b1b2b3b4b5b6b7b8b9k600b1b2b3b4b5b6b7b8b9m10b1b2b3b4b5b6b7b8b9m20b1b2b3b4b5b6b7b8b9m30b1b2b3b4b5b6b7b8b9m40b1b2b3b4b5b6b7b8b9m50b1b2b3b4b5b6b7b8b9m60b1b2b3b4b5b6b7b8b9m70b1b2b3b4b5b6b7b8b9m80b1b2b3b4b5b6b7b8b9m90b1b2b3b4b5b6b7b8b9k700b1b2b3b4b5b6b7b8b9m10b1b2b3b4b5b6b7b8b9m20b1b2b3b4b5b6b7b8b9m30b1b2b3b4b5b6b7b8b9m40b1b2b3b4b5b6b7b8b9m50b1b2b3b4b5b6b7b8b9m60b1b2b3b4b5b6b7b8aKHITAN rɉCHARACTER-18B00y1y2y3y4y5y6y7y8y9yAyByCyDyEyF;10y1y2y3y4y5y6y7y8y9yAyByCyDyEyF;20y1y2y3y4y5y6y7y8y9yAyByCyDyEyF;30y1y2y3y4y5y6y7y8y9yAyByCyDyEyF;40y1y2y3y4y5y6y7",
  "y8y9yAyByCyDyEyF;50y1y2y3y4y5y6y7y8y9yAyByCyDyEyF;60y1y2y3y4y5y6y7y8y9yAyByCyDyEyF;70y1y2y3y4y5y6y7y8y9yAyByCyDyEyF;80y1y2y3y4y5y6y7y8y9yAyByCyDyEyF;90y1y2y3y4y5y6y7y8y9yAyByCyDyEyF;A0y1y2y3y4y5y6y7y8y9yAyByCyDyEyF;B0y1y2y3y4y5y6y7y8y9yAyByCyDyEyF;C0y1y2y3y4y5y6y7y8y9yAyByCyDyEyF;D0y1y2y3y4y5y6y7y8y9yAyByCyDyEyF;E0y1y2y3y4y5y6y7y8y9yAyByCyDyEyF;F0y1y2y3y4y5y6y7y8y9yAyByCyDyEyFtC00y1y2y3y4y5y6y7y8y9yAyByCyDyEyF;10y1y2y3y4y5y6y7y8y9yAyByCyDyEyF;20y1y2y3y4y5y6y7y8y9yAyByCyDyEyF;30y1y2y3y4y5y6y7y8y9yAyByCyDyEyF;40y1y2y3y4y5y6y7y8y9yAyByCyDyEyF;50y1y2y3y4y5y6y7y8y9yAyByCyDyEyF;60y1y2y3y4y5y6y7y8y9yAyByCyDyEyF;70y1y2y3y4y5y6y7y8y9yAyByCyDyEyF;80y1y2y3y4y5y6y7y8y9yAyByCyDyEyF;90y1y2y3y4y5y6y7y8y9yAyByCyDyEyF;A0y1y2y3y4y5y6y7y8y9yAyByCyDyEyF;B0y1y2y3y4y5y6y7y8y9yAyByCyDyEyF;C0y1y2y3y4y5y6y7y8y9yAy",
  "ByCyDyEyF;D0y1y2y3y4y5#1AFF0āATAKANA iMINNAN T[-2%3%4%5#1AFF5%7%8lNASALIZED T[-1Ħ2Ħ3Ħ4Ħ5#1AFFDĦ7Ħ8#1B000gɒEaʸiɒYEāENTAIGANA iA-1j2j3jWOmI-1j2j3j4mU-1j2j3j4j5mE-2j3j4j5j6mO-1j2j3mKA-1f2f3f4f5f6f7f8f9f10p1fKEbI-1f2f3f4f5f6f7f8bU-1f2f3f4f5f6f7bE-1f2f3f4f5f6bO-1f2f3fKImSA-1f2f3f4f5f6f7f8bI-1f2f3f4f5f6bU-1f2f3f4f5f6f7f8bE-1f2f3f4f5bO-1f2f3f4f5f6f7mTA-1f2f3f4bI-1f2f3f4f5f6f7bU-1f2f3f4fTObE-1f2f3f4f5f6f7f8f9bO-1f2f3f4f5f6fRAmNA-1f2f3f4f5f6f7f8f9bI-1f2f3f4f5f6f7fTEbU-1f2f3bE-1f2f3f4f5f6fKObO-1f2f3f4f5mHA-1f2f3f4f5f6f7f8f9f10p1bI-1f2f3f4f5f6f7bU-1f2f3bE-1f2f3f4f5f6f7bO-1f2f3f4f5f6f7f8mMA-1f2f3f4f5f6f7bI-1f2f3f4f5f6f7bU-1f2f3f4bE-1f2fMAbO-1f2f3f4f5f6mYA-1f2f3f4f5fYObU-1f2f3f4bO-1f2f3f4f5f6mRA-1f2f3f4bI-1f2f3f4f5f6f7bU-1f2f3f4f5f6bE-1f2f3f4bO-1f2f3f4f5f6mWA-1f2f3f4f5bI-1f2f3f4f5bE-1f2f3f4bO-1f2f3f4f5",
  "f6f7mN-MU-MO-1v2āIRAGANA iɒWUaKATAKANA iɒYIqEhWU#1B150aʸirWIlElO#1B164aKATAKANA irWIlElOpN#1B170aNUSHU CHARACTER-1B170j1j2j3j4j5j6j7j8j9jAjBjCjDjEjFb80j1j2j3j4j5j6j7j8j9jAjBjCjDjEjFb90j1j2j3j4j5j6j7j8j9jAjBjCjDjEjFbA0j1j2j3j4j5j6j7j8j9jAjBjCjDjEjFbB0j1j2j3j4j5j6j7j8j9jAjBjCjDjEjFbC0j1j2j3j4j5j6j7j8j9jAjBjCjDjEjFbD0j1j2j3j4j5j6j7j8j9jAjBjCjDjEjFbE0j1j2j3j4j5j6j7j8j9jAjBjCjDjEjFbF0j1j2j3j4j5j6j7j8j9jAjBjCjDjEjFm200j1j2j3j4j5j6j7j8j9jAjBjCjDjEjFb10j1j2j3j4j5j6j7j8j9jAjBjCjDjEjFb20j1j2j3j4j5j6j7j8j9jAjBjCjDjEjFb30j1j2j3j4j5j6j7j8j9jAjBjCjDjEjFb40j1j2j3j4j5j6j7j8j9jAjBjCjDjEjFb50j1j2j3j4j5j6j7j8j9jAjBjCjDjEjFb60j1j2j3j4j5j6j7j8j9jAjBjCjDjEjFb70j1j2j3j4j5j6j7j8j9jAjBjCjDjEjFb80j1j2j3j4j5j6j7j8j9jAjBjCjDjEjFb90j1j2j3j4j5j6j7j8j9jAjBjCjDjEjFbA0j1j2j3j4j5j6j7j8j9jAjBjCjDjEjFbB0j1j2j3j4j5j6j7j8j9jAj",
  "BjCjDjEjFbC0j1j2j3j4j5j6j7j8j9jAjBjCjDjEjFbD0j1j2j3j4j5j6j7j8j9jAjBjCjDjEjFbE0j1j2j3j4j5j6j7j8j9jAjBjCjDjEjFbF0j1j2j3j4j5j6j7j8j9jAjB#1BC00aDUPLOYAN iHgXgPgTgFgKgLgBgDgVgGgRgP NgD SgF NgK MgR SgTHgSLOAN DHgDHgKKgSLOAN JgHLgLHgRHgMgNgJgSgM NgN MgJ MgS JgM dʓgN dʓgJ dʓvS ˮ x)gS dʓv ?gM SgN SgJ SgS SgM N SgN M SgJ M SgS J SgJ S dʓmNb SgS Tb RmPb RgT SmR SgWkHk RgS NmMgK R SgG R SgS Kb RgAgSLOAN OWgOAkgAOUgIgEgIEgǽIgUIgEEgSLOAN EHgROMANIAN IgSLOAN EEgǬIgYEgUgEUgXWgU NgǬUgROMANIAN UgUHgSLOAN UgOOHkWkUgWAkOkIkEIkOWgNASAL UpOpIpAgPERNIN ANhMgSLOAN ENpANpONgƻM#1BC70$AFFIX <ƘSECANTcMID ƘSECANTc:ƘSECANTcǾƋSECANTcMID ƋSECANTcǡƋSECANTcATTACHED SECANThȱTO-:SECANThTANGENTvILhE ǶhI ǶhTANGENT Ƕ#1BC80cǡǠjTIGHT ǠjȐjǬȐjʓjǜjʄjWAVEjʚ#1BC90cǾǠbTIGHT ǠbȐbǬȐbʓbǜbʄbWAVEbʚb*#1BC9C$@O dɠ$THICK iSELECTOR$^=$ǸCHINOOK ",
  "ǈaSHORTHxFORMAT iOVERLAPkCONTINUING OVERLAPkǂSTEPkɁSTEP#1CF00aZNAMENNY ǋ= GORAZDO ˵ȶh˵ȶhTSATA ON ȶhGORAZDO NIZKO ON ȶhNIZKO ON ȶhSREDNE ON ȶhMALO ˅ON ȶh˅ON ȶhVYSOKO ON ȶhMALO ˅ˆȶh˅ˆȶhVYSOKO ˆȶhGORAZDO ˵ǆh˵ǆhTSATA ON ǆhGORAZDO NIZKO ON ǆhNIZKO ON ǆhSREDNE ON ǆhMALO ˅ON ǆh˅ON ǆhVYSOKO ON ǆhMALO ˅ˆǆh˅ˆǆhVYSOKO ˆǆhTSATA S KRYZHEMhMALO ˅S KRYZHEMhSTRANNO MALO POVYSHEh˅S KRYZHEM;TRANNOhVYSOKO S KRYZHEMhMALO ˅STRANNOhGORAZDO VYSOKOhZELOhONhRAVNOhTIKHAYAhBORZAYAhUDARKAhPODVERTKAhLOMKAhKUPNAYAqACHKAhZEVOKhSKOBAhRAZSEKAhKRYZH ON ȶ#1CF30bTONAL RANGE = MRACHNOĤSVETLOĤTRESVETLOb= ZADERZHKAhDEMESTVENNY ZADERZHKAhOTSECHKAhPODCHASHIEy dƋƜhCHASHKAs POLNAYAhOBLACHKOhSOROCHYA NOZHKAhTOCHKAhDVOETOCHIEbATTACHING ƋOMETb= CURVED OMEThKRYZHbƷTONAL RANGE INDICATOR$PRIZNAK ȊLEVEL-2t3vDIRECTION FLIPvKRYZHvROG#1CF50$",
  "NEUME KRYUKj TIKHYcPARAKLITcDVA V CHELNUcKLYUCHcZANOZHEKcSTOPITSAl S OCHKOMcPEREVODKAh ʟcSTOPITSA dSOROCHYA NOZHKAcCHELYUSTKAcPALKAcZAPYATAYAcGOLUBCHIK BORZYqTIKHYqMRACHNYqSVETLYqTRESVETLYcVRAKHIYA PROSTAYAhMRACHNAYAhSVETLAYAhTRESVETLAYAhKLYUCHEVAYA PROSTAYAĤMRACHNAYAĤSVETLAYAĤTRESVETLAYAc^ZAPYATAYAcƦCHELYUSTKAcDERBITSAcKHAMILOcCHASHKAcPODCHASHIEcSKAMEYTSA MRACHNAYAqSVETLAYAqTRESVETLAYAvIKHAYAcDEMESTVENNY KLYUCHcSKAMEYTSA KLYUCHEVAYA SVETLAYAtʟtVAYA TIKHAYAqDVOECHELNAYA PROSTAYAĦSVETLAYAĦʟĦKLYUCHEVAYAgLOZHITIEh S ZAPYATOYqZAKRYTOEqS KRYZHEMcKRYZHcROGcFITAcKOBYLAcZMEYTSAcSTATYAf S ZAPYATOYhKRYZHEMhZAPYATOY I KRYZHEMhKRYZHEM I ZAPYATOYpZAKRYTAYAs S ZAPYATOYpS ROGOMhDVUMYA ZAPYATYMIhZAPYATOY I PODCHASHIEMcPOLKULIZMYcSTATYA ʟkRELA PROSTAYApMRACHNOTIKHAYApKRYZHEVAYApPOLUPOVODNAYAhVODNAYApʟpKLYU",
  "CHEPOVODNAYA&ʟpTIKHAYA PUTNAYApDVOECHELNAYAsOKRYZHEVAYAtPOVODNAYAsAYA KLYUCHEVAYAsOPOVODNAYA KLYUCHEVAYApGROMNAYA dȜ ZAPYATAYAvOPOVODNAYA dȜ ZAPYATAYAvNAYAvOPOVODNAYAĤ d^ZAPYATAYA!KRYZHEVAYAĥ POVODNAYAcMECHIKf POVODNYpKLYUCHEVOY&POVODNY&NEPOSTOYANNYcSTRELA TRYASOGLASNAYA%POVODNAYA%STRELNAYAcOSOKAj SVETLAYAfTRESVETLAYAfKRYUKOVAYA SVETLAYApLYUCHEVAYA SVETLAYA;ʟcSTRELA KRYUKOVAYAt POVODNAYA;GROMNAYA dȜ ZAPYATAYAĥOPOVODNAYA dȜ ZAPYATAYAĥNAYAĥOPOVODNAYAį d^ZAPYATAYAĦKRYZHEVAYAİ POVODNAYA;TRYASKAcKUFISMAcOBLAKOcDUDAcNEMKAcPAUK#1D000aBYZANTINE ʗƝ PSILIqDASEIAqǓqOXEIA EKFONITIKONsDIPLIqVAREIA EKFONITIKONtDIPLIqKATHISTIqSYRMATIKIqPARAKLITIKIqYPOKRISISy DIPLIqKREMASTIqAPESO EKFONITIKONqEXO EKFONITIKONqTELEIAqKENTIMATAqAPOSTROFOSģ DIPLIqSYNEVMAqTHITAqOLIGON ɔqGORGON ɔqPSILONqCHAMILONqVATHYqISON ɔqKEN",
  "TIMA ɔtTA ɔqSAXIMATAqPARICHONqSTAVROS APODEXIAqOXEIAI ɔqVAREIAI ɔqAPODERMA ɔ%THEMAqKLASMAqREVMAqPIASMA ɔqTINAGMAqANATRICHISMAqSEISMAvYNAGMA ɔ;META STAVROUqOYRANISMA ɔqTHEMAqLEMOIqDYOqTRIAvESSERAqKRATIMATAqAPESO EXO NEOqFTHORA ɔqIMIFTHORAqTROMIKON ɔqKATAVA TROMIKONqPELASTONvSIFISTONqKONTEVMAqCHOREVMA ɔqRAPISMAqPARAKALESMA ɔ+LITIKI ɔqICHADINqNANAqPETASMAqKONTEVMA ALLOqTROMIKON ALLOqSTRAGGISMATAqGRONTHISMATAqISON NEOqOLIGON NEOvXEIA NEOqPETASTIqKOUFISMAqPETASTOKOUFISMAqKRATIMOKOUFISMAqPELASTON NEOqKENTIMATA NEO ANOt NEO ANOqYPSILIqAPOSTROFOS NEOyI SYNDESMOS NEOqYPORROIqKRATIMOYPORROONqELAFRONqCHAMILIqMIKRON ISONqVAREIA NEOqPIASMA NEOvSIFISTON NEOqOMALONqANTIKENOMAqLYGISMAqPARAKLITIKI NEO+ALESMA NEOqETERON PARAKALESMAqKYLISMAqANTIKENOKYLISMAqTROMIKON NEOqEKSTREPTONqSYNAGMA NEO!RMAqCHOREVMA NEO",
  "qEPEGERMAqSEISMA NEOqXIRON KLASMAqTROMIKOPSIFISTONqPSIFISTOLYGISMAqTROMIKOLYGISMAtPARAKALESMAqPSIFISTOPARAKALESMAqTROMIKOSYNAGMAqPSIFISTOSYNAGMAqGORGOSYNTHETONqARGOSYNTHETONqETERON ARGOSYNTHETONqOYRANISMA NEOqTHEMATISMOS ESOĦXO+ APLOUN%S KAI APOTHESqKATAVASMAqENDOFONONqYFEN KATO+ANOqSTAVROSqKLASMA ANOqDIPLI ɔqKRATIMA ɔyLLO;NEOqAPODERMA NEO!LIqDIPLIqTRIPLIvETRAPLIqKORONISqLEIMMA ENOS CHRONOUtDYO CHRONONtTRION CHRONON;ESSARON CHRONONtIMISEOS CHRONOUqGORGON NEO ANOtPARESTIGMENON ARISTERAĮDEXIAqDIGORGON; PARESTIGMENON ARISTERA KATOĹANOİDEXIAqTRIGORGONqARGONqIMIDIARGONqDIARGONqAGOGI POLI ARGIsARGOTERIyIsMETRIA;SIsGORGIģOTERIsPOLI GORGIqMARTYRIA PROTOS ICHOSyALLI PROTOS ICHOSyDEYTEROS ICHOSyALLI DEYTEROS ICHOSyTRITOS ICHOSĥFONIASģETARTOS ICHOSīLEGETOS ICHOSyLEGETOS ICHOSyPLAGIOS ICHOSqISAKIA TEL",
  "OUS ICHIMATOSqAPOSTROFOI TELOUS ICHIMATOSqFANEROSIS TETRAFONIASģMONOFONIASģDIFONIASqMARTYRIA VARYS ICHOSyPROTOVARYS ICHOSģLAGIOS TETARTOS ICHOSqGORTHMIKON N APLOUNĦDIPLOUNqENARXIS KAI FTHORA VOUqIMIFONON&THORONqFTHORA ɔ DEYTEROU ICHOUtDIATONIKI PAĪNANAtNAOS ICHOStDIATONIKI DItSKLIRON DIATONON DItDIATONIKI KEĪZOĪNI KATOĭANOtMALAKON CHROMA DIFONIASįMONOFONIASvHTORA SKLIRON CHROMA VASISvTHORA SKLIRON CHROMA SYNAFItNENANOqCHROA ZYGOSsKLITONsSPATHIqFTHORA I YFESIS TETARTIMORIONtENARMONIOS ANTIFONIAqYFESIS TRITIMORIONqDIESIS TRITIMORION;ETARTIMORIONtAPLI DYO DODEKATAtMONOGRAMMOS TESSERA DODEKATAtDIGRAMMOS EX DODEKATAtTRIGRAMMOS OKɫDODEKATAqYFESIS APLI DYO DODEKATAtMONOGRAMMOS TESSERA DODEKATAtDIGRAMMOS EX DODEKATAtTRIGRAMMOS OKɫDODEKATAqGENIKI DIESIStYFESISqDIASTOLI APLI MIKRIĨEGALIyDIPLIyTHESEO",
  "SqSIMANSIS THESEOSĩ DISIMOUĪTRISIMOUīETRASIMOUyARSEOSĨ DISIMOUĩTRISIMOUĪETRASIMOUqDIGRAMMA GG!FTOGGOS OUqSTIGMAqARKTIKO PA;VOU;GA;DI;KE;ZO;NIqKENTIMATA NEO MESOt NEO MESOtTA NEO KATOt NEO KATOvLASMA KATOqGORGON NEO KATO#1D100aʗƝ Ȝ ɢʄc^ɢʄcǫɢʄcɅǫɢʄc˙ɢʄcǽɢʄc<REPEAT >c:REPEAT >gEPEAT ʓScDAL SEGNOk CAPOcSEGNOcCODAcREPEATED FIGURE-1s2s3cFERMATAp ?cBREATH =cCAESURAcBRACEbKETc[-ȍSTAFFcȒ-ȍSTAFFgǘ-ȍSTAFFc~-ȍSTAFFgɊ-ȍSTAFFcɌ-ȍSTAFFbSTȆFRETBOARDc~-STȆFRETBOARDcG CLEFf OTTAVA ALTA&BASSAcC CLEFcF CLEFf OTTAVA ALTA&BASSAcDRUM CLEF-1q2#1D129c˦ MEASURE RESTc^ˈRPpFLATcFLAT UPjˎcNATURAL UPlˎcˈRP UPfˎcȧT[ ˈRP%FLATcCOMMON TIMEgUT TIMEcOTTAVA ALTApBASSAcQUINDICESIMA ALTA%BASSAcMULTI RESTcWHOLE RESTcƺRESTcȧRESTcǄH RESTcɌˍTH RESTcTHIRTY-SECOND RESTcɌTY-~TH RESTc[ ƫ Tɷ-ǄH RESTcX ˪ȮcƳ˪ȮcƸX ˪Ȯcǃ˪Ȯ WHITEsȲcƼ ˪Ȯ ɁWHIT",
  "EĤȲ;<WHITEĦȲ;:WHITEħȲ;ǂWHITEĦȲ;Ɂ:WHITEĪȲc˴˪Ȯ WHITE&ȲcƼ-ROUND ˪Ȯ ǂWHITEĬȲcǒ ˪ȮcVOID ˪Ȯc˪Ȯ ȲgULL ˪ȮcCLUSTER ˪Ȯ WHITEtȲcɀcWHOLE ˪cƺ˪cȧ˪cǄH ˪cɌˍTH ˪cTHIRTY-SECOND ˪cɌTY-~TH ˪c[ ƫ Tɷ-ǄH ˪cǋSTEMvPRECHGESANG STEMqTREMOLO-1;2;3cFINGERED TREMOLO-1t2t3cǋAUGMENTATION ʓqFLAG-1+2+3+4+5cBEGIN BEAMcʬBEAMcBEGIN TIEcʬTIEcBEGIN SLURcʬSLURcBEGIN PHRASEcʬPHRASEcǋȰqSTACCATOqʑTOqSTACCATISSIMOqMARCATOt-STACCATOqȰ-STACCATOqLOUREcARPEGGIAɫUPvˎcǋDOITqRIPqFLIPqSMEARqBENDq^TONGUEqǹTONGUEcRINFORZANDOcSUBITOcZcPIANOcMEZZOcFORTEcCRESCENDOcDECRESCENDOcGRACE ˪ SLASHvNO SLASHcTRgURNcƭTURNcTURN SLASHjUPcǊ Ɯ-1s2s3s4s5s6s7s8s9s10t1cHAUPTSTIMMEcNEBENSTIMMEcʬǭSTIMMEcDEGREE SLASHcǋǂBOWqɁBOWqHARMONICqSNAP PIZZICATOcPEDAL =fɁ=cƺPEDAL =cGLISSANDO UPqˎcdFINGERNAILScDAMPb ALLcMAXIMAcLOʭcBREVIScSEMIBREVIS WHITEvȲcMINIMAf ȲcSEMIMINIMA ",
  "WHITEvȲcFUSA WHITEjȲcLOʭ PERFECTA RESTfIMPERFECTA RESTcBREVIS RESTcSEMIBREVIS RESTcMINIMA RESTcSEMIMINIMA RESTcTEMPUS PERFECTUM CUM PROLATI[ PERFECTAįIMPERFECTAįPERFECTA DIMINUTION-1pIMPERFECTUM CUM PROLATI[ PERFECTAıIMPERFECTAĻ DIMINUTION-1Ň2Ň3cCROIXcGREGORIAN C CLEFqF CLEFcǃBcVIRGAcPODATUScCLIVIScSCANDICUScCLIMACUScTORCULUScPORRECTUSh FLEXUScSCANDICUS FLEXUScTORCULUS RESUPINUScPES SUBPUNCTIScKIEVAN C CLEFpʬǭPIECEpǫ˪pRECITATɊ =pWHOLE ˪pƺ˪pȧ˪ STEM ˎĨUPpǄH ˪ STEM ˎħUPpFLAT >cSORIcKORON#1D200aɛVOCAL ˿Ɲ-1%2%3%4%5%6%7%8%9%10&1&2&3&4&5&6&7&8&9%20&1&2&3&4%50&1&2&3&4oINSTRUMENTAL ˿Ɲ-1ģ2ģ4ģ5ģ7ģ8ģ11Ĥ2Ĥ3Ĥ4Ĥ7Ĥ8Ĥ9ģ23Ĥ4Ĥ5Ĥ6Ĥ7Ĥ9ģ30Ĥ2Ĥ6Ĥ7Ĥ8Ĥ9ģ40Ĥ2Ĥ3Ĥ5Ĥ7Ĥ8Ĥ9ģ50Ĥ1Ĥ2Ĥ3Ĥ4aǋɛʗTRISEMEqETRASEMEhPENTASEMEaɛʗLEIMMA#1D2E0aMAYAN ˟ZEROe[eȒcǘe~cɊeɌcǩeǄeǰeˬeELǩeTWELVEcHIRˍe~ˍcIFˍeɌˍcǩˍeǄEENeǰˍ#1D300āONOGRAM ʅEARTHaDIG",
  "RAM ʅHEAVENLY EARTHuUMAN EARTH(EARTHLY HEAVENjUMANgaTETRAGRAM ʅɑeFULL ǜeMIREDeɢRIEReKEEPING ɃeCONTRARIETYeASCENTeOPPOSITIONeBRANCHING OUTeDEFECTɊNESS ʒDISTORTIONcɊRGENCEeYOUTHFULNESSeINCREASEePENETRATIONeREACHeCONTACTeHOLDING BACKeWAITINGeFOLLOWINGeADVANCEeRELEASEgSISTANCEeEASEeJOYeCONˬTIONeENDEAVOUReDUTIESeCHANGEeDECISɊNESSeɺRESOLUTIONePACKINGeLEGIONeCLOSENESSeKINSHIPeGATHEʏeSTRENGTHePURITYeFULLNESSeRESIDENCEeLAW ʒMODELeRESPONSEeGOING ɫMEETeENCOUNTERSeSTOVEeGREATNESSeENəMENTePATTERNeRITUALeFɶeVASTNESS ʒWASTINGeCONSTANCYeMEASUREeETERNITYeUNITYeDIMINISHMENTeȖMOUTHeGUARDEDNESScATHEȆINeMASSINGeACCUMULATIONeEMBELLISHMENTeDOUBTeWATCHeSINKINGeINNEReDEPARTUREcARKENINGcIMMINGeEXHAUSTIONeSEVERANCEcTOPPAGEeHARDNESSeCOMPLETIONcLOSUREeFAILUREeAGGRAVATIONeCOMPLIANCEeON THE VERGEeDIFFICULTIESeLABOUʏeFOS",
  "TEʏ#1D360aCOUNTING ROD UNIT ʆ[hȒqǘh~qɊhɌqǩhǄhǰnˬS ʆ[hȒqǘh~qɊhɌqǩhǄhǰaȪTALLY = [lȒhǘl~hɊaTALLY = [(FɊ#1D400a˘ɺwAvBvCvDvEvFvGvHvIvJvKvLvMvNvOvPvQvRvSvTvUvVvWvXvYvZmrAhBhChDhEhFhGhHhIhJhKhLhMhNhOhPhQhRhShThUhVhWhXhYhZn˻wA%B%C%D%E%F%G%H%I%J%K%L%M%N%O%P%Q%R%S%T%U%V%W%X%Y%ZjrAvBvCvDvEvFvG#1D456vIvJvKvLvMvNvOvPvQvRvSvTvUvVvWvXvYvZnɺ˻wA;B;C;D;E;F;G;H;I;J;K;L;M;N;O;P;Q;R;S;T;U;V;W;X;Y;ZqrAsBsCsDsEsFsGsHsIsJsKsLsMsNsOsPsQsRsSsTsUsVsWsXsYsZnɉwA#1D49E%C%D#1D4A2%G#1D4A5%J%K#1D4A9%N%O%P%Q#1D4AE%S%T%U%V%W%X%Y%ZjrAvBvCvD#1D4BBvF#1D4BDvHvIvJvKvLvMvN#1D4C5vPvQvRvSvTvUvVvWvXvYvZnɺɉwA;B;C;D;E;F;G;H;I;J;K;L;M;N;O;P;Q;R;S;T;U;V;W;X;Y;ZqrAsBsCsDsEsFsGsHsIsJsKsLsMsNsOsPsQsRsSsTsUsVsWsXsYsZnFRAKTUR wA&B#1D507&D&E&F&G#1D50D&J&K&L&M&N&O&P&Q#1D516&S&T&U&V&W&X&Y#1D51EfrA!B!C!D!E!F!G!H!I!J!K!L!M!N!O!P!Q!R!S!T!U!V!W!X!Y",
  "!Znȥ-˹wAģB#1D53BģDģEģFģG#1D540ģIģJģKģLģM#1D546ģO#1D54AģSģTģUģVģWģXģY#1D552!rA;B;C;D;E;F;G;H;I;J;K;L;M;N;O;P;Q;R;S;T;U;V;W;X;Y;ZnɺFRAKTUR wAyByCyDyEyFyGyHyIyJyKyLyMyNyOyPyQyRySyTyUyVyWyXyYyZvrAtBtCtDtEtFtGtHtItJtKtLtMtNtOtPtQtRtStTtUtVtWtXtYtZnȁwAtBtCtDtEtFtGtHtItJtKtLtMtNtOtPtQtRtStTtUtVtWtXtYtZhrA+B+C+D+E+F+G+H+I+J+K+L+M+N+O+P+Q+R+S+T+U+V+W+X+Y+ZhɺwAĥBĥCĥDĥEĥFĥGĥHĥIĥJĥKĥLĥMĥNĥOĥPĥQĥRĥSĥTĥUĥVĥWĥXĥYĥZ&rAģBģCģDģEģFģGģHģIģJģKģLģMģNģOģPģQģRģSģTģUģVģWģXģYģZh˻wAħBħCħDħEħFħGħHħIħJħKħLħMħNħOħPħQħRħSħTħUħVħWħXħYħZsrAĥBĥCĥDĥEĥFĥGĥHĥIĥJĥKĥLĥMĥNĥOĥPĥQĥRĥSĥTĥUĥVĥWĥXĥYĥZhɺ˻wAĬBĬCĬDĬEĬFĬGĬHĬIĬJĬKĬLĬMĬNĬOĬPĬQĬRĬSĬTĬUĬVĬWĬXĬYĬZĤrAĪBĪCĪDĪEĪFĪGĪHĪIĪJĪKĪLĪMĪNĪOĪPĪQĪRĪSĪTĪUĪVĪWĪXĪYĪZnMONOʻ wAsBsCsDsEsFsGsHsIsJsKsLsMsNsOsPsQsRsSsTsUsVsWsXsYsZlrA&B&C&D&E&F&G&H&I&J&K&L&M&N&O&P&Q&R&S&T&U&V&W&X&Y&Zn˻rʓLESS IyJ#1D6A",
  "8nɺwʽvBETAvʾvDELTAv˕vZETAvETAvTHETAvIOTAvKAPPAvLAMDAvMUvNUvXIv˔vPIvRHOvTHETA Ɲv˲vTAUvʼvPHIvCHIvPSIvʉmNABLAmrʽhBETAhʾhDELTAh˕hZETAhETAhTHETAhIOTAhKAPPAhLAMDAhMUhNUhXIh˔hPIhRHOhǫ˲h˲hTAUhʼhPHIhCHIhPSIhʉmɧmɿƝmTHETA ƝmKAPPA ƝmPHI ƝmRHO ƝmPI Ɲn˻wʽ%BETA%ʾ%DELTA%˕%ZETA%ETA%THETA%IOTA%KAPPA%LAMDA%MU%NU%XI%˔%PI%RHO%THETA Ɲ%˲%TAU%ʼ%PHI%CHI%PSI%ʉjNABLAjrʽvBETAvʾvDELTAv˕vZETAvETAvTHETAvIOTAvKAPPAvLAMDAvMUvNUvXIv˔vPIvRHOvǫ˲v˲vTAUvʼvPHIvCHIvPSIvʉjɧjɿƝjTHETA ƝjKAPPA ƝjPHI ƝjRHO ƝjPI Ɲnɺ˻wʽ;BETA;ʾ;DELTA;˕;ZETA;ETA;THETA;IOTA;KAPPA;LAMDA;MU;NU;XI;˔;PI;RHO;THETA Ɲ;˲;TAU;ʼ;PHI;CHI;PSI;ʉqNABLAqrʽsBETAsʾsDELTAs˕sZETAsETAsTHETAsIOTAsKAPPAsLAMDAsMUsNUsXIs˔sPIsRHOsǫ˲s˲sTAUsʼsPHIsCHIsPSIsʉqɧqɿƝqTHETA ƝqKAPPA ƝqPHI ƝqRHO ƝqPI ƝnȁɺwʽĥBETAĥʾĥDELTAĥ˕ĥZETAĥETAĥTHETAĥIOTAĥKAPPAĥLAMDAĥMUĥNUĥXIĥ˔ĥPIĥRHOĥTHETA Ɲĥ˲ĥTAUĥʼĥPHI",
  "ĥCHIĥPSIĥʉ&NABLA&rʽģBETAģʾģDELTAģ˕ģZETAģETAģTHETAģIOTAģKAPPAģLAMDAģMUģNUģXIģ˔ģPIģRHOģǫ˲ģ˲ģTAUģʼģPHIģCHIģPSIģʉ&ɧ&ɿƝ&THETA Ɲ&KAPPA Ɲ&PHI Ɲ&RHO Ɲ&PI Ɲ&˻wʽĬBETAĬʾĬDELTAĬ˕ĬZETAĬETAĬTHETAĬIOTAĬKAPPAĬLAMDAĬMUĬNUĬXIĬ˔ĬPIĬRHOĬTHETA ƝĬ˲ĬTAUĬʼĬPHIĬCHIĬPSIĬʉĤNABLAĤrʽĪBETAĪʾĪDELTAĪ˕ĪZETAĪETAĪTHETAĪIOTAĪKAPPAĪLAMDAĪMUĪNUĪXIĪ˔ĪPIĪRHOĪǫ˲Ī˲ĪTAUĪʼĪPHIĪCHIĪPSIĪʉĤɧĤɿƝĤTHETA ƝĤKAPPA ƝĤPHI ƝĤRHO ƝĤPI ƝnɺwDIʾmrDIʾ#1D7CEmƣh[hȒqǘh~qɊhɌqǩhǄhǰnȥ-˹ƣ;[;Ȓyǘ;~yɊ;Ɍyǩ;Ǆ;ǰnȁƣ+[+Ȓsǘ+~sɊ+Ɍsǩ+Ǆ+ǰhɺƣģ[ģȒĤǘģ~ĤɊģɌĤǩģǄģǰnMONOʻ ƣ&[&Ȓ+ǘ&~+Ɋ&Ɍ+ǩ&Ǆ&ǰa>WRITING HAND-ɻȾkƸȾmɁȾkOVAL ȾkʫȾkǲȾkɻǕBENTkƸǕBENTkɻǝUNDER ǕBENTpǕɖKNUCKLE%CUPPED%HINGEDy LOWkƸǕHINGEkɻǕMIDDLEkƸǕMIDDLEkɻǕƖBENTģɖKNUCKLESģHINGED%ɁƖHINGED%HINGED ƖUP%ƖʃĬ ǕBENTĭƖBENTĭCUPPEDĭHINGEDĤROSSEDkƸǕƖɠEDkɻƖBENT ƹȾpǕBENT ƹMIDDLE%Ɩ˶kƸǕƖ˶kɻǕƖɯǝBENTģBENT ǝˇģǝBENTģHINGED SPREAD ǝSIDE%ɁƖHI",
  "NGED ǝSIDEĳʃ%HINGED ƖɁǝSIDE%ƖɁSPREAD ǝʎģǝCUPPEDĪIRCLEDĩǶEDĪINGEDpǝBETWEEN ǕƖˇpǕƖʃ ǝSIDEķ ʃĸBENTpƖǝǶED ǕUPpǕǝǶED ƖUP%Ɩʃ HINGED ǝSIDEĤROSSED ǝSIDEĤONJOINED ǝʎĭCUPPED ǝʎpƖǝCUPPED ǕUPpǕǝCUPPED ƖUPpƖǝǌǕUPıHINGEDpǕǝANGLED OUT ƖUPĩIN ƖUPyǌƖUP%Ɩǝʃ HINGEDĩANGLED OUTįpƖǝANGLED OUT ǕUPĴɠEDĪǕUPpǕǝǶED ƖHINGEDmLAT ~ FINGERSy BENTģHINGEDģʃĬ SPLITkCLAW ~ ɞʃkɻ~ ɞʃ BENTkʫ~ ɞʃkFLAT ȠɞSPREADpHEEL ȠɞSPREADpȠɞSPREAD ~ BENTpHEEL ȠɞSPREAD ~ BENTpȠɞSPREAD BENTpHEEL ȠɞSPREAD BENTpȠɞSPREAD ǝʎkCɁȠɞSPREADĨ OPENkʫȠɞSPREAD OPENkOVAL ȠɞSPREADkFLAT ȠɞSPREAD HINGEDİ ǝSIDEıNO ˶ff BETWEEN PALM FACINGSpHEELpǝSIDEpHEEL ǝSIDEpǝBENT%ʎpSPLIT ǕǝSIDE%ɑy ǝSIDEĭ BENT%ɪkCLAWf ǝSIDEpNO ˶pǝʎkǶ CURLICUEfkCɁOPENjj ǴǝSIDEfǝSIDEfǴNO ˶fNO ˶fǴǝʎfǝʎbRLICUE OPENqmIRCLEkOVALf ǝSIDEpNO ˶pǝʎkʫOPEN! ǝʎpp ɃlǴǝSIDElǝSIDElǴNO ˶lNO ˶lǝSIDE TOUCHING Ⱦ&B",
  "ETWEEN ƖʏkANGLEkɻǕƖʏkƸǕƖʏkʫǕƖʏkǲǕƖʏkʫɪkɻǕƖȆBENTĨʃkʫǕƖȆʃkɻȝˎ; RIPPLE ˇĩCURVEDyOTHERS ǜD&UPpǝUNDER ȝUPkƸȝUPkOVAL ȝUPkǲȝUPkɻȝɖKNUCKLE&BENT&TOUCHES ˶+HUMBkʫȝ˶kɻȝǕ˶kʫȝǕ˶kǲȝǕǝǕǝOUTĵkɻȝȾkƸȝȾkʫȝȾkǲȝȾkɻǕƖɪkƸǕƖɪkʫǕƖɪlʏkǲǕƖɪkɻǕƖɠ ɪkƸǕƖɠ ɪkɻȆˎkʫȆǂǕǝǶ MIDDLEkǲȆǂƖǝǕɠkɻȆUP!ɖKNUCKLE!ɪkƸȆɪkOVAL ȆɪkǲȆɪkɻȆMIDDLE; ʃyɖKNUCKLES!Ⱦ!˶kǶ Ȇ˶kɻǕȆɪkƸǕȆɪmURLICUE ǕȆȝONkǶ ǕȆȝOUTĨINĨUNDERkCɁǕȆɪkʫǕȆɪkǲǕȆȝOUTĨkɻƖˎkʫMIDDLEkɻƖUPkƸƖUPkɻƖɖKNUCKLE&ɁǝSIDEkǶ Ɩ˶kɻƖǝɪ&ɪ&ȆɪkƸƖȆɪmURLICUE ƖȆȝONbP ƖȆɪkʫƖȆɪkǲƖȆȝOUTĪINĩkƸƖȆȝBENTmLAW ƖȆȝʃĲ SIDEkǶ ƖȆȝʃ OUTĳINĲmINGE ǕHINGEDkɻǕǝSIDEkʫǕǝSIDEkɻǕǝSIDE ǝDIAGONALĭʃĭBENTħǕBENTħBOTH BENTħǕHINGEyʎ ǕˇİBENTyǶyCURLICUEĥVE ǝˮkCLAW ǕǝCURVE ǝˮkɻǕǝCURVE ǝUNDERģIRCLEkCɁǕ˶t OPENkʫǕǝOPENģəyy ɃkǲǕǝOUTģINykɻ˶! HEEL%SIDE DIAGONAL;ʃ;BENT%ʎ%BETWEEN ǕMIDDLEĤƖʏĤȆɪ%UNDER ǐFINGERS%ƹǐFINGERS%UNDER ƽFINGERSy~ FINGERS%ƹ~ ",
  "ɖKNUCKLESff HEELuTOUCH Ȝm˦mBETWEENuGRASP Ȝm˦mBETWEENuSTRIKE Ȝb˦bBETWEENuBRUSH Ȝm˦mBETWEENuRUB Ȝg˦gBETWEENuSURȏ ƝSjBETWEENnQUEEZE ȤȜjrȜjȤ˦jr˦fEQUENTIALuFLICK ȤȜmrȜmȤ˦mr˦bEQUENTIALuSQUEEZE FLICK ɚuʦʫɁǂəģɃ+SEQUENTIAL!ǂSEQUENTIAL!Ɂǂɚ əįɃ!SIDE ɫSIDE SCISSORSfȇFINGER CONTACTfǼFINGER CONTACTfȇȜ ɯɃįɋįəĴSTĦʠs^ˇĦʠĦɚı ʠsɠsǹɯMOVEMENTĦʠĦɚı ʠsBʬɃĤɋĤəsɭɃĦɋĦəĦROTATIONtHECK ɃĥɋĥəsBOX ɃģɋģəsZIGZAG ɃĦɋĦəsPEAKS ɃĥɋĥəuTRAVEL-ȇROTATION-ȇȜİȥİɚĦǼȜıȥıɚ&ˈKING&ARM SPIRAL ȜĨȥĨTRIPLEuʦǙAWAY ɃģɋģəĨST+TOWARDS ɃĦɋĦəīST+BETWEEN AWAY ɃīɋīəİSTĦTOWARDS ɃĮɋĮəĳSTfǼȜ ɯɃİɋİəĵSTħʠt^ˇħʠħɚĲ ʠtɠtǹɯMOVEMENTħʠħɚ MOVEMENTĳʠtBENDtɭɃħɋħə;HECKtBOX ɃĤɋĤətZIGZAG ɃħɋħətPEAKS ɃĦɋĦəuTRAVEL-ǼROTATION-ǼȜĲȥĲɚħȇȜıȥıɚ+ˈKINGuʦȇCURVE ȧɃĭɋĭəĲSTĥHALF-ƸɃıɋıəĶSTĥTǘ-ȧƸɃĺɋsHUMP ɃĤɋĤəsLOOP ɃĤɋĤəĤrȥsWAVE CURVE ^ɃıɋıəĪǹɃıɋıəsCURVE THEN ˇĤD ɠ ɃĬɋuROTATION-ȇȜsȥ",
  "sALTERNATEuʦȇˈKINGsCURVE ȋFRONT WALLsHUMP ȋFRONT WALLsLOOP ȋFRONT WALLsWAVE ȋFRONT WALLuROTATION-ȇȜ ȋFRONT WALLs^ȋFRONT WALLsɚ ȋFRONT WALLuʦȇCURVE ȋCHESTsHUMP ȋCHESTsLOOP ȋCHESTsWAVE ȋCHESTuROTATION-ȇȜ ȋCHESTs^ȋCHESTsɚ ȋCHESTuʦȇWAVE ǙPATH ɃĲɋĲəfǼCURVE ȋCEILING ɃĶətHUMP ȋCEILING rȥĵȤȥĵrTRIPLEĵȤTRIPLEtLOOP ȋCEILING rȜĵȤȜĵrȥĵȤȥtWAVE ȋCEILING ɃĵəuROTATION-ǼȜ ȋCEILINGt^ȋCEILINGtɚ ȋCEILINGuʦǼCURVE ȋFLOʒɃĴətHUMP ȋFLOʒrȥĳȤȥĳǹrTRIPLEĺȤTRIPLEtLOOP ȋFLOʒrȜĳȤȜĳrȥĳȤȥtWAVE ȋFLOʒɃĳəuROTATION-ǼȜ ȋFLOORt^ȋFLOORtɚ ȋFLOORuʦǼCURVE ɃĦɋĦəīSTĦCOMBINEDtHUMP ɃtLOOP ɃtWAVE SNAKEĦMALLĥəuROTATION-ǼȜtȥtɚuʦǼˈKING PARALLELfȇARM ƸrȜĪƿȜĪrȥĪƿȥfǼARM ƸȋWALL rȜĸƿȜĸȤȜĸrȥĸƿȥĸȤȥfȇWRIST ƸFRONT ȜĲȥfǼWRIST ƸȋWALL ȜĺȥfȇFINGER ǜS ȜĮȥfǼFINGER ǜS ȋWALL ȜļȥuDYNAMIC *Ȯ Ƀ+əjFASTjSLOWjˬSEjRELAXEDjSIMULTANEOUSt ɚjEɹOTHER TIMEjGRADUALuȮg RIM",
  "kʦȇˇĤTILTvǼˇvȇCURVEvǼCURVEq ǜuȏ DIRECTION POSITION NOSE ʎ TILTINGĩɁʒˎĳ TILTINGuEYEBROWS ɯUP+NEUTRAL+ˎuDREAMY EYEBROWS ʀˎ%ǂNEUTRAL%ɁNEUTRAL%ʀUPuFOREȮ NEUTRALfCONTACTfWRINKLEDuEYES OPENkSQUEEZEDkCLOSEDc BLINK Ȝp˦cS ƺOPENkWIDE OPENkƺCLOSEDkWIDENING MOVEMENTc WINKcLASHES UPpˎpFLUTTEʏcGAZE-ȇˇĦ ȥħɚjǼˇħ ȥĨɚjȇCURVEDjǼCURVEDjȇCIRCLINGuCHEEKS PUFFEDbNEUTRALbSUCKEDuˬSE CHEEKS HIGHqMIDDLEqLOWuEARSuNOSE NEUTRALkCONTACTkWRINKLESmIGGLESuAIR BLOWING OUTgSUCKING INgBǾrROTATIONSgSUCK rROTATIONSuBREATH INHALEbEXHALEuMOUTH ȖNEUTRALqʎqCONTACTmSMILEl WRINKLEDhOPENmFROWNl WRINKLEDhOPENmǴǜlʎlWRINKLEDlOVAL! WRINKLED%YAWNlRECTANGLEt WRINKLED;YAWNmKISSp ʎlWRINKLEDmˬSEl ʎhSUCKEDuLIPS PRESSED TOGETHERc ƷƹUPPERgƾƹLOWERuMOUTH ˯SmWRINKLES Ȝ!ȥuTONGUE STICKING OUT FARbLICKING LIPSbTIP BETWEEN LIPSlTOUCHING ˮ MOUTHbˮ MOUTH ",
  "RELAXEDbMOVES AGAINST CHEEKbɑ STICKING OUTvˮ MOUTHnEETHk MOVEMENTmON TONGUE! MOVEMENTfLIPSq MOVEMENTmBITE LIPSuʦȇJAWfǼJAWuNECKuHAIRuEXCITEMENTuSHOULDER HIP SPINEqPOSITIONSuȇSHOULDER HIP MOVEuǼSHOULDER HIP MOVEuSHOULDER TILTING FROM WAISTuTORSO-ȇɯSTRETCH%CURVED BENDmǼTWISTINGuƾBODY TILTING FROM HIP JOINTSuLIMB COMBINATIONkLENGTH-1h2h3h4h5h6h7uFINGERuLOCATION-ȇʻfǼʻj HǄfWIDTHfDEPTHfȮ NECKfTORSOfLIMBS DIGITSuȿuǈuSEMIʧuʧuǒ#1DA9BuFILL MODIFIER-2v3v4v5v6#1DAA1uROTATION MODIFIER-2+3+4+5+6+7+8+9+10s1s2s3s4s5s6#1DF00aǱriFENG ʈ dTRILLbƦɉGoirwƵGoriƦKoirwL dBELToriLEZH dưbƵY dBELTbƦENGbƵR dǬLEG xưj dǶ xưoiRETROFLEX CLICK dưoriESH d^ɢĦ xCURLbƵT dCURLoiƭȓSʐdCURLnSTRETCHED C dCURLeMALL wƵKoriL dFISHǶbDEZH ʈ dǏbL dBELT xǏbENG dǏbƵR dǏbR dFISHǶ xǏbTESH ʈ dǏbEZH dǏbDEZH ʈ dưbI dƜ xưbO dưbTESH ʈ dưbC dưbS dCU",
  "RL#1E000aǋGLAGOLITIC iAZU%BUKY%VEDE%GLAGOLI%DOBRO%YESTU%ZHɊTE#1E008&EMLJA%IZHE&NITIAL IZHE&%DJERVI%KAKO%LJUDIJE%MYSLITE%NASHI%ONU%POKOJI%RITSI%SLOVO%TVRIDO%UKU%FRITU%HERU#1E01B%SHTA%TSI%CHRIVI%ˈ%YERUsI&ATI#1E023&U%rYUS#1E026%YO%IOTATED rYUS%˖%IOTATED ˖%FITA#1E100aNYIAKENG PUACHUE HMONG iMA+TSA+NTA+TA+HA+NA+XA+NKA+CA+LA+SA+ZA+NCAsTSA+KA+DA+ʺsRA+VA+NTXA+TXA+FA+RA+QA+YA+NQA+PA+XYA+NPA+DLA+NPLA+HAH+MLA+PLA+GA+RRA+AsA+I+U+OsO+EsE+W#1E130lT[-B%M%J%V%S%G%Dl@ʅPERSONtTHINGtLOCATIONtANIMALtINVERTEBRATE%XW XWhYLLABLE LENGTHENER#1E140lƣ&[&Ȓ+ǘ&~+Ɋ&Ɍ+ǩ&Ǆ&ǰ#1E14ElLOGOGRAM ʺJlǌCA#1E290aTOɫiPAuBAuTAuDAuKAuGAuMAuNAnGAuSAuCHAuYAuWAuJAuHAuRAuLAuIuBREATHY IuIUuBREATHY IUuUuEuBREATHY EuEOuBREATHY EOuOuAEuBREATHY AEuAą@ʿT[#1E2C0aWANCHO iAAceBAeCAeDAeGAeYAePHAeLAeNAePAeTAcHAeFAeSAcHAeJAeZAeWAeVAeKAeOeAUeRAeMAeKHA",
  "eHAeEeIeʭeUeLLHAeTSAcRAeONGeAANGcNGeINGeONeENeAANeʺeUENeYIHzT[ TUPcNIuKOIcNIzƣn[nȒeǘn~eɊnɌeǩnǄnǰ#1E2FFzNGUN >#1E7E0aETHIOPIC ɏHHYAfUfIfAAfEEpfO#1E7E8mGURAGE HHWAmHHWIfEEp#1E7EDmGURAGE MWI!EE#1E7F0qQWI!EE%qBWI!EEqKWI!EE%qGWI!EE%qFWI!EEqPWI!EE#1E800aMENDE KIKAKUI ɏM001 KIv2 KAv3 KUq65 KEEq95 KEq76 KOOq48 KOh179 KUAh004 WIv5 WAv6 WUh126 WEEq18 WEv4 WOOh045 WOh194 WUIq43 WEIh061 WVIq49 WVAh139 WVEh007 MINv8 MANv9 MUNq59 MENq94 MONh154 MUANq89 MUENh010 BIv1 BAv2 BUh150 BEEh097 BEh103 BOOq38 BOh013 Iv4 Av5 Uh163 EEq00 Eq65 OOq47 Oq37 EIv1 INv5 INq95 ANq78 ENh019 SIq20 SAv1 SUh162 SEEq16 SEq36 SOOh079 SOh196 SIAh025 LIv6 LAv7 LUq84 LEEq73 LEq54 LOOh153 LOq10 ǬLEh016 DIv7 DAv8 DUq89 DEEh180 DOOv1 DOh022 TIv3 TAv4 TUq91 TEEq55 TEh104 TOOh069 TOq28 JIv9 JAq30 JUh157 JEEq13 JEq60 JOOh063 JOh175 ǬJOh0",
  "31 YIv2 YAv3 YUh109 YEEh080 YEh141 YOOq21 YOh034 FIv5 FAv6 FUq78 FEEv5 FEh133 FOOh088 FOh197 FUAq01 FANh037 NINv8 NANv9 NUNh117 NENq69 NONq76 HIh041 HAh186 HUh040 HEEq96 HEq42 HOOh140 HOh083 HEEIh128 HOOUh053 HINh130 HANh087 HUNq52 HENh193 HONh046 HUANq90 NGGIq43 NGGAq82 NGGUh115 NGGEEq46 NGGEq56 NGGOOq20 NGGOq59 NGGAAq27 NGGUAh086 ǬNGGEh106 ǬNGGOOq83 ǬNGGOq55 GIq11 GAq68 GUq90 GEEq66 GUEIv7 GUANq84 NGENh057 NGONh177 NGUANh068 PIq99 PAq50 PUq81 PEEq51 PEh102 POOh066 POh145 MBIh062 MBAh122 MBUh047 MBEEh188 MBEEh072 MBEh172 MBOOv4 MBOq87 MBUUq61 ǬMBEq05 ǬMBOOq42 ǬMBOq32 KPIh092 KPAq74 KPUq44 KPEEh108 KPEq12 KPOOq58 KPOq24 GBIh056 GBAh148 GBUh093 GBEEh107 GBEh071 GBOOv0 GBOh171 RAq23 NDIv9 NDAv5 NDUq91 NDEEq19 NDEh067 NDOOv4 NDOh152 NJAq92 NJUq49 NJEEq34 NJOOq82 VIv5 VAq51 VUq73 VEEh085 VEh14",
  "4 VOOh077 VOh164 NYINh058 ʺNh170 NYUNh098 NYENq60 NYON#1E8C7eʆ[jȒfǘj~fɊjɌfǩjǄjǰeǋǇˍS;NSsƫSsƞStEN ƞSsƫ ƞSsMILLIONS#1E900aADLAM wiALIFfDAALIfLAAMfMIIMfBAfSINNYIIYHEfPEfBHEfRAfEfFAfIfOfDHAfYHEfWAWfNUNfKAFfYAfUfJIIMfCHIfHAfQAAFfGAfʺfTUfNHAfVAfKHAfGBEfZALfKPOfˈoriALIFbDAALIbLAAMbMIIMbBAbSINNYIIYHEbPEbBHEbRAbEbFAbIbObDHAbYHEbWAWbNUNbKAFbYAbUbJIIMbCHIbHAbQAAFbGAbʺbTUbNHAbVAbKHAbGBEbZALbKPObˈoALIF LENGTHENERoƯLENGTHENERoGEMINATION =oHAMZAoȌMODIFIERoGEMINATE ȌMODIFIERoʴzASALIZATION =#1E950oƣu[uȒnǘu~nɊuɌnǩuǄuǰ#1E95Eoˡǧ=eȈ=#1EC71aINDIC SIYAQ Ǉ[bȒjǘb~jɊbɌjǩbǄbǰbˬjɷjHIRTYbFORTYjIFTYbɌTYjǩTYbǄYbǰTYb[ ƫbǐƫjǘ ƫb~ ƫjɊ ƫbɌ ƫjǩ ƫbǄ ƫbǰ ƫb[ ƞbǐƞjǘ ƞb~ ƞjɊ ƞbɌ ƞjǩ ƞbǄ ƞbǰ ƞbˬ ƞjɷ ƞjHIRTY ƞbFORTY ƞjIFTY ƞbɌTY ƞjǩTY ƞbǄY ƞbǰTY ƞbLAKHlANuLAKH =uǇKARORhANbPREFIXED [%Ȓ&ǘ%~&Ɋ%Ɍ&ǩ%Ǆ%ǰuPLACEHOLDERuȴ[ QUARTERqHALFfƽQUA",
  "RTERSuRUPEE =uǇȚ[&Ȓ+EN ƞuȚLAKH =#1ED01aOTTOMAN SIYAQ Ǉ[fȒpǘf~pɊfɌpǩfǄfǰfˬpɷpHIRTYfFORTYpIFTYfɌTYpǩTYfǄYfǰTYf[ ƫfǐƫpǘ ƫf~ ƫpɊ ƫfɌ ƫpǩ ƫfǄ ƫfǰ ƫf[ ƞfǐƞpǘ ƞf~ ƞpɊ ƞfɌ ƞpǩ ƞfǄ ƞfǰ ƞfˬ ƞpɷ ƞpHIRTY ƞfFORTY ƞpIFTY ƞfɌTY ƞpǩTY ƞfǄY ƞfǰTY ƞeMARRATANeȚǇȒtǘs~tɊsɌtǩsǄsǰsˬs~ ƫsɌ ƫsǐƞtEN ƞeȴ[ HALF!ɌTH#1EE00aʋ˘ALEFjBEHjJEEMjDAL#1EE05jWAWjZAINjHAHjTAHjYEHjKAFjLAMjMEEMjNOONjSEENjAINjFEHjSADjQAFjREHjSHEENjTEHfHEHjKHAHjTHALjDADjZAHjGHAINjʓLESS BEH%NOON%FEH%QAF#1EE21jˡBEH%JEEM#1EE24%HEH#1EE27&AH#1EE29%YEH%KAF%LAM%MEEM%NOON%SEEN%AIN%FEH%SAD%QAF#1EE34%SHEEN%TEH&HEH%KHAH#1EE39%DAD#1EE3B%GHAIN#1EE42jȵED JEEM#1EE47!HAH#1EE49!YEH#1EE4B!LAM#1EE4D!NOON!SEEN!AIN#1EE51!SAD!QAF#1EE54!SHEEN#1EE57!KHAH#1EE59!DAD#1EE5B!GHAIN#1EE5D!ʓLESS NOON#1EE5FģQAF#1EE61jSTRETCHED BEH+JEEM#1EE64+HEH#1EE67sAH+TAH+YEH+KAF#1EE6C+MEEM+NOON+",
  "SEEN+AIN+FEH+SAD+QAF#1EE74+SHEEN+TEHsHEH+KHAH#1EE79+DAD+ZAH+GHAIN+ʓLESS BEH#1EE7EĦFEH#1EE80jLOOPED ALEF!BEH!JEEM!DAL!HEH!WAW!ZAIN!HAH!TAH!YEH#1EE8B!LAM!MEEM!NOON!SEEN!AIN!FEH!SAD!QAF!REH!SHEEN!TEH%HEH!KHAH!THAL!DAD!ZAH!GHAIN#1EEA1jȥ-˹BEHyJEEMyDAL#1EEA5yWAWyZAINyHAHyTAHyYEH#1EEAByLAMyMEEMyNOONySEENyAINyFEHySADyQAFyREHySHEENyTEHģHEHyKHAHyTHALyDADyZAHyGHAIN#1EEF0jǨ ƱdȘdTATWEEL&ȘdDAL#1F000aMAHJONG TILE EAST WINDn˰WINDnɵWINDnNORTH WINDnRED DRAGONnGREEN DRAGONnƔDRAGONn[ ǭʲnǐǭʲeǘ ǭʲn~ ǭʲeɊ ǭʲnɌ ǭʲeǩ ǭʲnǄ ǭʲnǰ ǭʲn[ ǭBAMBOOSnǐǭBAMBOOSeǘ ǭBAMBOOSn~ ǭBAMBOOSeɊ ǭBAMBOOSnɌ ǭBAMBOOSeǩ ǭBAMBOOSnǄ ǭBAMBOOSnǰ ǭBAMBOOSn[ ǭǜSnǐǭǜSeǘ ǭǜSn~ ǭǜSeɊ ǭǜSnɌ ǭǜSeǩ ǭǜSnǄ ǭǜSnǰ ǭǜSnPLUMnORCHIDnBAMBOOnCHRYSANTHEMUMnSPʏeUMMERnAUTUMNnWINTERnJOKERnBACK#1F030aDOMINO TILE ƘBACKp-00-00!1!2!3!4!5!6h1-00!1!2!3!4!5!6h2-00!1!2!3",
  "!4!5!6h3-00!1!2!3!4!5!6h4-00!1!2!3!4!5!6h5-00!1!2!3!4!5!6h6-00!1!2!3!4!5!6uƋBACKj-00-00q1q2q3q4q5q6p1-00q1q2q3q4q5q6p2-00q1q2q3q4q5q6p3-00q1q2q3q4q5q6p4-00q1q2q3q4q5q6p5-00q1q2q3q4q5q6p6-00q1q2q3q4q5q6#1F0A0aPLAYING CARD BACKnACE ǭ˱nǐǭ˱eǘ ǭ˱n~ ǭ˱eɊ ǭ˱nɌ ǭ˱eǩ ǭ˱nǄ ǭ˱nǰ ǭ˱nˬ ǭ˱nJACK ǭ˱nKNIGHT ǭ˱nQUEEN ǭ˱nKING ǭ˱#1F0B1nACE ǭʳnǐǭʳeǘ ǭʳn~ ǭʳeɊ ǭʳnɌ ǭʳeǩ ǭʳnǄ ǭʳnǰ ǭʳnˬ ǭʳnJACK ǭʳnKNIGHT ǭʳnQUEEN ǭʳnKING ǭʳnRED JOKER#1F0C1nACE ǭȼSnǐǭȼSeǘ ǭȼSn~ ǭȼSeɊ ǭȼSnɌ ǭȼSeǩ ǭȼSnǄ ǭȼSnǰ ǭȼSnˬ ǭȼSnJACK ǭȼSnKNIGHT ǭȼSnQUEEN ǭȼSnKING ǭȼSnƗJOKER#1F0D1nACE ǭCLUBSnǐǭCLUBSeǘ ǭCLUBSn~ ǭCLUBSeɊ ǭCLUBSnɌ ǭCLUBSeǩ ǭCLUBSnǄ ǭCLUBSnǰ ǭCLUBSnˬ ǭCLUBSnJACK ǭCLUBSnKNIGHT ǭCLUBSnQUEEN ǭCLUBSnKING ǭCLUBSnƔJOKERnFOOLnTRUMP-1b2b3b4b5b6b7b8b9b10j1j2j3j4j5j6j7j8j9b20j1#1F100aƣ ǈ(ȿo[ ȿoǐȿzǘ ȿo~ ȿzɊ ȿoɌ ȿzǩ ȿoǄ ȿoǰ ȿĂNGBAT ǌȁƣ.NEGATɊ",
  " ǌȁƣaǌZERO dSLASH.ǿ*.DOLLAR @dOVERLAID BACKSLASHaPARENTHESIZED ǱwiAģBģCģDģEģFģGģHģIģJģKģLģMģNģOģPģQģRģSģTģUģVģWģXģYģZaǦƥED ǱwiSaǌ˻ǱwiCĤR.CD.WZāOPY<ƝaǤD ǱwiA&B&C&D&E&F&G&H&I&J&K&L&M&N&O&P&Q&R&S&T&U&V&W&X&Y&Z.HV.MV.SD$S.PPV.WCaNEGATɊ ǌǱwiAĦBĦCĦDĦEĦFĦGĦHĦIĦJĦKĦLĦMĦNĦOĦPĦQĦRĦSĦTĦUĦVĦWĦXĦYĦZaɖMC >.D >.R >aǌCC$ dOVERLAID BACKSLASH.HUMAN FIGUREaNEGATɊ ǤD ǱwiAĦBĦCĦDĦEĦFĦGĦHĦIĦJĦKĦLĦMĦNĦOĦPĦQĦRĦSĦTĦUĦVĦWĦXĦYĦZaɠED NEGATɊ ǤD ǱwiPaNEGATɊ ǤD ICkPAkSAkABkWCaǃDJoD CL$OOL.FREE.ID.NEW$G.OK.SOS.Ɂdǧ=.VS.ƽD.SECOND SCREEN.ǐK.~ K.Ǆ K.ȠPOINT [.Sǩ POINT [.Tɷ-ǐPOINT Ȓ.ɌTY P.[ ƫ Tɷ P.ǱriD.HC$DR$I-RES.LOSSLESS.SHV.UHD.VODaMASK WORK Ɲ#1F1E6aREGIONAL INDICATʒƝ iA;B;C;D;E;F;G;H;I;J;K;L;M;N;O;P;Q;R;S;T;U;V;W;X;Y;ZaǃʸHOKAoD KATAKANA KOKOkSA#1F210.CJK UNIFIED IDEOGRAPH-624B+5B57s3CC.KATAKANA DE.CJK UNIFIED IDEOGRAPH-4E8C",
  "+591A+89E3+5929+4EA4+6620+7121+6599+524DsF8Cs18D+65B0+521D+7D42s51F+8CA9+58F0s439+6F14s295s355+4E00;9+904A+5DE6+4E2D+53F3+6307+8D70+6253+7981sA7A+5408+6E80s709;8+7533+5272s5B6+914D#1F240aǦƥED CJK UNIFIED IDEOGRAPH-672Cį4E09ı8Cį5B89į70B9į6253į76D7į52DDį6557#1F250aǌIDEOGRAPH ADVANTAGEbCCEPT#1F260aˠƝ ʅFUbLUbSHOUbXIbSHUANGXIbCAI#1F300aCYCL[aFOGGYaȖUMBRELLAaNIGHT dɗSaSUNRISE ƹMOUNTAINSzaCITYSCAPE AT DUSKaSUNSET ƹBUILDINGSaRAINBOWaBRIDGE AT NIGHTaWATER WAVEaVOLCANOaMILKY WAYaEARTH GLOBE EUROPE-AFRICAuAMERICASnSIA-AUSTRALIAaGLOBE dMERIDIANSaNEW ˴ƝaWAXING CRESCENT ˴ƝaFIRST ȧ˴ƝaWAXING GIBBOUS ˴ƝaFULL ˴ƝaWANING GIBBOUS ˴ƝaLAST ȧ˴ƝaWANING CRESCENT ˴ƝaCRESCENT MOONaNEW ˴dȏaFIRST ȧ˴dȏaLAST ȧ˴dȏaFULL ˴dȏaSUN dȏaGLOWING ɗaSHOOTING ɗaTHERMOMETERaƗDROPLETaƔSUN$ drCLOUD,BEHIND CLOUDp dRAINaCLOUD dRAIN(SNOW(",
  "ɶNING(TORNADOaFOGaWIND BLOWING ȏaHOT DOGaTACOaBURRITOaCHESTNUTaSEEDLINGaEVERGREEN TREEaDECIDUOUS TREEaPALM TREEaCACTUSaHOT PEPPERaTULIPaCHERRY BLOSSOMaROSEaHIBISCUSaSUNFLOWERaBLOSSOMaEAR ǭMAIZEzRICEaHERBa~ LEAF CLOVERaMAPLE LEAFaFALLEN LEAFaLEAF FLUTTEȆIN WINDaMUSHROOMaTOMATOaAUBERGINEaGRAPESaMELONaWATERMELONaTANGERINEaLEMONaBANANAaPINEAPPLEaRED APPLEaGREEN APPLEaPEARăCHaCHERRIESaSTRAWBERRYaHAMBURGERaSLICE ǭPIZZAaMEAT ON B[aPOULTRY LEGaRICE CRACKERąBALLaCOOKED RICEāURRY xRICEaSTEAMING BOWLāPAGHETTIaBREADaFRENCH FRIESaROASTED SWEET POTATOaDANGOaODENaSUSHIaFRIED SHRIMPāISH CAKE dSWIRL DE>aSOFT ICE CREAMāHAVED ICEaICE CREAMaDOUGHNUTaCOOKIEāHOCOLATE ɢāANDYaLOLLIPOPaCUɗDaH[Y POTaSHORTCAKEaBENɫBOXaPOT ǭFOODaCOOKINGaFORK xKNIFEaTEACɁWITHOUT HANDLEaSAKE BOTTLE xCUPaWINE GLASSaCOCKȵ GLASSaTROPICAL ",
  "DRINKaBEER MUGaCLINKING BEER MUGSaBABY BOTTLEaFORK xKNIFE dPLATEaBOTTLE dPOPPING CORKaPOPCORNaRIBBONaWRAPPED PRESENTaBIRTHDAY CAKEaJACK-O-LANTERNaCHRISTMAS TREEaFATHER CHRISTMASāIREWORKS. SPARKLERaBALLOONaPARTY POPPERaCONFETTI BALLaTANABATA TREEaɠED FLAGSaPINE DECORATIONaJAPANESE DOLLSaCARP STREAMERaWIND CHIMEa˴VIEWING CEREMONYaSCHOOL SATCHELaGRADUATION CAPaHEART dTIP ON THE ȶaBOUQUET ǭFLOWERSaMILITARY MEDALaREMINDER RIBBONaʗKEYBOARD dJACKSaSTUDIO MICROPH[aLEVEL SLIDERaCONTROL KNOBSaBEAMED ASCENDING ʗ˪SzDESCENDING ʗ˪SaFILM FRAMESaADMISSION TICKETSaCAROUSEL HORSEaFERRIS WHEELaROLLER COASTERaFISHING POLE xFISHaMICROPH[āOVIE CAMERAaCINEMAaȮPH[aARTIST PALETTEaʐHATaCIRCUS ˬTaTICKETaCLAPPER BOARDaPERFORMING ARTSaVIDEO GAMEaDIRECT HITaSLOT MACHINEaBILLIARDSaGAME DIEaBOWLINGaFƷPLAYING CARDSaʗ˪ĂLTI",
  "PLE ʗ˪SaSAXOPH[aGUITARaʗKEYBOARDaTRUMPETaVIOLINaʗSCOREaRUNNING SHIRT dSASHaˬNIS RACQUET xBALLaSKI xSKI BOOTaBASKETBALL xHOOPaCHEQUERED FLAGaSNOWBOARDERaRUNNERaSURFERāPORTS MEDALaTROPHYaHORSE RACINGaAMERICAN FOOTBALLaRUGBY FOOTBALLaSWIMMERaWǄ LIFTERaGOLFERaRACING MOTORCYCLEzCARaCRICKET BAT xBALLaVOLLEYBALLaFIELD HOCKEY STICK xBALLaICE HOCKEY STICK xPUCKaTABLE ˬNIS PADDLE xBALLaSNOW CAPPED MOUNTAINaCAMPINGaBEACH dUMBRELLAāUILDING CONSTRUCTIONaHOUSE BUILDINGSaCITYSCAPEaDERELICT HOUSE BUILDINGaCLASSICAL BUILDINGaDESERTo ISLANDaNATIONAL PARKaSTADIUMaHOUSE BUILDINGodGARDENaOFFICE BUILDINGaJAPANESE POST OFFICEaEUROPEAN POST OFFICEaHOSPITALaBANKaAUTOMATED TELLER MACHINEaHOTELaLOVE HOTELaCONVENIENCE STOREaSCHOOLaDEPARTMENT STOREaFACTORYaIZAKAYA LANTERNaJAPANESE CASTLEaEUROPEAN CASTLEaƔPENNANTaƗPENN",
  "ANTaWAVING ƔFLAGzƗFLAGaROSETTEaƗROSETTEaLABELaBADMINTON RACQUET xSHUTTLECOCKāOW x*aAMPHORAaEMOJI ȊFITZPATRICK TYPE-1-2t3t4t5t6aRATaMOUSEaOXaWATER BUFFALOaCOWaTIGERaLEOPARDaRABBITaCATaDRAGONaCROCODILEaWHALEaSNAILăKEaHORSEaRAMaGOATaSHEEPaMONKEYaROOSTERaCHICKENaDOGaPIGaBOARaELEPHANTaOCTOPUSaSPIRAL SHELLaBUGaANTaH[YBEEaLADY BEETLEaFISHaTROPICAL FISHaBLOWFISHaTURTLEaHATCHING CHICKaBABY CHICKaFRONT-˷BABY CHICKaBIRDaPENGUINaKOALAaPOODLEaDROMEDARY CAMELaBACTRIAN CAMELaDOLPHINaMOUSE ȏaCOW ȏaTIGER ȏaRABBIT ȏaCAT ȏaDRAGON ȏaSPOUTING WHALEaHORSE ȏaMONKEY ȏaDOG ȏaPIG ȏaFROG ȏaHAMSTER ȏaWOLF ȏaBEAR ȏaPANDA ȏāIG NOSEāAW PRINTSaCHIPMUNKaEYESăāARaNOSEaMOUTHaTONGUEaƔɁƏBACKHxȾoǂƏBACKHxȾo<ƏBACKHxȾo:ƏBACKHxȾaFISTED Hx>aWAVING Hx>aOK Hx>a˶S Ɂ>zǂ>aCLAPPING HANDS >aǴHANDS >aCROWNaWOMANS HATaEYEGLASSESaNECKTIEaT-S",
  "HIRTaJEANSaDRESSaKIMONOaBIKINIaWOMANS CLOTHESaPURSEaHANDBAGaPOUCHaMANS SHOEaATHLETIC SHOEaHIGH-HEELED SHOEaWOMANS SANDALzBOOTSaFOOTPRINTSaBUST IN SILHOUETTEĄS IN SILHOUETTEāOYaGIRLaMANaWOMANaFAMILYaMAN xWOMAN HOLDING HANDSaǐMEN HOLDING HANDSĄWOMEN HOLDING HANDSaPOLICE OFFICERaWOMAN dBUNNY EARSaBRIDE dVEILaPERSON dBLOND HAIRaMAN dGUA PI MAO$TURBANaOLDER MANoWOMANaBABYaCONSTRUCTION WORKERaPRINCESSaJAPANESE OGRE$GOBLINaGHOSTaBABY ANGELaEXTRATERRESTRIAL ALIENaALIEN MONSTERaIMPaSKULLa˺DESK PERSONaGUARDSMANaDANCERaLIPSTICKaNAIL POLISHaȏ MASSAGEaHAIRCUTaɢBER POLEaSYʏEaPILLaKISS =aLOVE LETTERaʏaGEM ST[aKISSaBOUQUETaCOUPLE dHEARTaWEDDINGaBEATING HEARTāROKEN HEARTaǐʳaSPARKLING HEARTaGROWING HEARTaHEART d*aBLUE HEARTaGREEN HEARTaYELǾHEARTaPURPLE HEARTaHEART dRIBBONaREVOLVING ʳaHEART DECORATIONaȼ ˈPE ",
  "dA ƮˮaELECTRIC ǉBULBaANGER ƝaBOMBaSLEEPING ƝaCOLLISION ƝaSPLASHING SWEAT ƝaDROPLETāASH ƝaPILE ǭPOOaFLEXED BICEPSaDIZZY ƝaSPEECH BALLOONaTHOUGHT BALLOONaƔFLOWERaƫ POINTS ƝaM[Y BAGaCURRENCY EXCHANGEaƠDOLLAR >aCREDIT CARDaBANK˪ dYEN >eDOLLAR >eEURO >ePOUND >aM[Y dWINGSaCHART dƤTRʬxYEN >aSEATaPERSONAL COMPUTERaBRIEFCASEaMINIDISCaFLOPPY DISKaOPTICAL DISCaDVDaFILE FOLDERaǴFILE FOLDERaPAGE dCURLą˷UPaCALENDARaTEAR-OFF CALENDARaCARD ȾāHART dƤTREND(ƚTRENDaɢ CHARTaCLIPBOARDaPUSHPINaROUND PUSHPINaPAPERCLIPaɯRULERaȀRULERaBOOK= TABSaLEDGERa˪BOOK. dDECORATɊ COVERaȖBOOKaǴBOOKaGREEN BOOKaBLUE BOOKaORANGE BOOKaBOOKSaNAME BADGEaSCROLLaMEMOaTELEPH[ RECEɊRaPAGERaFAX MACHINEaSATELLITE ANˬNAaPUBLIC ADDRESS LOUDSPEAKERaCHEEȆMEGAPH[aOUTBOX TRAYaINBOX TRAYaPACKAGEaE-MAIL ƝaINCOMING ENVELOPEaENVELOPE dƚ_)aȖMAILBOX d",
  "LOWERED FLAGjɖFLAGaǴMAILBOX dɖFLAGmLOWERED FLAGaPOSTBOXĄAL HORNaNEWSPAPERaMOBILE PH[u dƇ_AT ȶaVIBRATION MODEaMOBILE PH[ OFFaNO MOBILE PH[SaANˬNA dɢSaCAMERAo dFLASHaVIDEO CAMERAaTELEVISIONaRADIOaVIDEOCASSETTEaFILM PROJECTORaPORTABLE STEREOāRAYER BEADSaTWISTED Ƈ*SaɝƇxƍǴƸ*Sĵ dǌ[ ɍ,ƚxƤǴƸ*SaǿƚxƤǴƸ*SaǾBǆNESS ƝaǡBǆNESS ƝaSPEAKER dCANCELLATION Ɯzz d[ SOUND WAVEnƽSOUND WAVESaBATTERYaELECTRIC PLUGaȱƏMAGNIFYING GLASSaǆ-ƏMAGNIFYING GLASSaLOCK dINK PENaȖLOCK dKEYaKEYaLOCKaǴLOCKaBELLĄ dCANCELLATION ƜāOOK=aLINK ƝaRADIO BUTTONaBACK dƍ_)aʬdƍ_)aON dǧ= d<:_)aSOON dƇ_)aʐdƤ_)aNO [ UNDER ǄEEN ƝaKEYCAP ˬaINPUT Ɲ ʅǱwLETTERSlrLETTERSkNUMBERSkƝSkǱLETTERSaFIREaELECTRIC TORCHaWRENCHaHAMMERaNUT xBOLTaHOCHOaPISTOLaMICROSCOPEaTELESCOPEaCRYSTAL BALLaɌ Ǯɗ dƖʓaJAPANESE Ɲ ʅBEGINNERaTRIDENT EMBLEMaƗǃBUTTONaƔǃBUTTONaȤRED ǜoBL",
  "UE ǜoORANGE ȼoBLUE ȼarORANGE ȼoBLUE ȼaUP-ƏRED Ƽaˎ-ƏRED ƼaUP-ƏrRED Ƽaˎ-ƏrRED ƼaƷ:ȷƔǜaƾ:ȷƔǜaǌɠ POMMEEāROSS POMMEE dHALF-Ƹ?uaNOTCHED <SEMIƸdƽʓS.:SEMIƸdƽʓSaƝ ʅ=S CHAPTERaƔǱɠaƠǱɠaCELTIC ɠaOM ƝaDOVE ǭPEACEaKAABAaMOSQUEaSYNAGOGUEaMENORAH dǰ BRANCHESaBOWL ǭHYGIEIAaCLOCK ȏ [ OCLOCK(ǐOCLOCKuǘ OCLOCK(~ OCLOCKuɊ OCLOCK(Ɍ OCLOCKuǩ OCLOCK(Ǆ OCLOCK(ǰ OCLOCK(ˬ OCLOCK(ELǩ OCLOCK(TWELVE OCLOCK([-THIRTY(Ȓ-THIRTYuǘ-THIRTY(~-THIRTYuɊ-THIRTY(Ɍ-THIRTYuǩ-THIRTY(Ǆ-THIRTY(ǰ-THIRTY(ˬ-THIRTY(ELǩ-THIRTY(TWELVE-THIRTYa:SPEAKERn d[ SOUND WAVEbƽSOUND WAVESaBULLHORN. dSOUND WAVESaʏING BELLaBOOKaCANDLEaMANTELPIECE CLOCKaƗSKULL xɠB[SaNO PIRACYaHOLEaMAN IN BUSINESS SUIT LEVITATINGaSLEUTH ʒSPYaDARK SUNGLASSESaSPIDERo WEBaJOYSTICKaMAN DANCINGa<HxTELEPH[ RECEɊRaTELEPH[ RECEɊR dPAGEa:HxTELEPH[ RECEɊRaƔTOUCHT[ TELEPH[aƗTOUCHT[ TE",
  "LEPH[aTELEPH[ ON ʐǭMODEMaCLAMSHELL MOBILE PH[aBACK ǭENVELOPEaSTAMPED ENVELOPEaENVELOPE dɶNINGaFLYING ENVELOPEaPEN ƹSTAMPED ENVELOPEaLINKED PAPERCLIPSaƗPUSHPINaƷ<PENCIL(BALLPOINT PEN(FOUNTAIN PEN(PAINTBRUSH(CRAYONāEFT WRITING HANDaƵOK Hx>aɖHxdɞSPLAYEDāEVERSED ɖHxdɞSPLAYED$˶S Ɂ>gǂ>$VICTORY HAND$HxdƖFINGER EXˬDEDāAISED HxdPART BETWEEN ƖxȆFINGERSaƔǂƏ<HxȾaˌƔ<ƏȾc:ƏȾ$Ɨ<ƏȾc:ƏȾaƗ<ƏBACKHxȾo:ƏBACKHxȾaˌƔɁƏȾcǂƏȾ$ƗɁƏȾcǂƏȾaƗɁƏBACKHxȾoǂƏBACKHxȾoHEARTaDESKʐCOMPUTERaKEYBOARD xMOUSEaƽNEȒRKED COMPUTERSaPRINTERāOCKET CALCULATORaƗHARD SHELL FLOPPY DISKaƔHARD SHELL FLOPPY DISKaSOFT SHELL FLOPPY DISKaTAPE CARTRIDGEaWIRED KEYBOARDa[ BUTTON MOUSEaǐBUTTON MOUSEāǘ BUTTON MOUSEāRACKBALLaOLD PERSONAL COMPUTERaHARD DISKaSCREENaPRINTER ICONaFAX ICONaOPTICAL DISC ICONaDOCUMENT dTEXTm xPICTUREePICTUREaFRAME dPICTURE(TILES(",
  "AN XaƗFOLDERaFOLDERaǴFOLDERaCARD ǕDIVIDERSąFILE BOXaFILE CABINETaEMPTY ˪, PAGEnDa˪Ą PAGEzDaEMPTY DOCUMENToPAGE,SaDOCUMENTaPAGEĄSaWASTEBASKETaSPIRAL ˪ PADzCALENDAR PADaDESKʐWINDOWaMINIMIZEāAXIMIZEaOVERLAPaɝ:x<SEMIƸ*SāANCELLATION XaINCREASE FONT SIZE ƝaDECREASE FONT SIZE ƝaCOMPRESSIONaOLD KEYaROLLED-ɁNEWSPAPERaPAGE dǌTEXTaSTOCK CHARTaDAGGER KNIFEaLIPSaSPEAKING Ȯ IN SILHOUETTEaƽRAYS )(?(ȶ(ǆa<SPEECH BUBBLEa:SPEECH BUBBLEaǐSPEECH BUBBLESāǘ SPEECH BUBBLESa<THOUGHT BUBBLEa:THOUGHT BUBBLEa<ANGER BUBBLEa:ANGER BUBBLEaMOOD BUBBLEaɶNING MOOD BUBBLEeaBALLOT BOX dBALLOTzɉXzBOX dɉX$LD ɉX$X dɺɉXaǉCHECK =aBALLOT BOX dɺCHECKaWORLD MAPaMOUNT FUJIaTOKYO TOWERaSTATUE ǭLIBERTYāILHOUETTE ǭJAPANaMOYAIaGRINNING ȏn dɩEYESaȏ dTEARS ǭJOYaɩȏ dǴMOUTH% xɩEYES;COLD SWEAT;TIGHTLY-ȖEYESmHALObORNSaWINKING ȏaɩȏ dɩEYESaȏ SAV",
  "OUȆDELICIOUS FOODaRELIEVED ȏaɩȏ dHEART-ʱEYESmSUNGLASSESăRKING ȏaʀȏaEXPRESSIONLESS ȏaUNAMUSED ȏaȏ dCOLD SWEATaPENSɊ ȏaCONFUSED ȏĄOUNDED ȏaKISSING ȏaȏ THROWING A KISSaKISSING ȏ dɩEYESmȖEYESaȏ dSTUCK-OUT TONGUEv xWINKING EYEsTIGHTLY-ȖEYESaDISAPǮȏaWORRIED ȏaANGRY ȏaPOUTING ȏaCRYING ȏaPERSEVEȆȏaȏ dLOOK ǭTRIUMPHaDISAPǮBUT RELIEVED ȏaFROWNING ȏ dǴMOUTHaANGUISHED ȏaFEARFUL ȏaWEARY ȏaSLEEPY ȏaTIRED ȏaGRIMACING ȏaLOUDLY CRYING ȏaȏ dǴMOUTHaHUSHED ȏaȏ dǴMOUTH xCOLD SWEATąSCREAMING IN FEARaASTONISHED ȏaFLUSHED ȏaSLEEPING ȏaDIZZY ȏaȏ WITHOUT MOUTH$ MEDICAL MASKaGRINNING CAT ȏ dɩEYESaCAT ȏ dTEARS ǭJOYaɩCAT ȏ dǴMOUTHpHEART-ʱEYESaCAT ȏ dWRY SMILEaKISSING CAT ȏ dȖEYESaPOUTING CAT ȏaCRYING CAT ȏaWEARY CAT ȏaSɶLY FROWNING ȏ$ɩȏaUPSIDE-ǂȏaȏ dROLLING EYES,NO GOOD GESTURE,OK GESTUREaPERSON BOWING DEEPLYaSEE-NO-EV",
  "IL MONKEYaHEAR-NO-EVIL MONKEYaSPEAK-NO-EVIL MONKEYaHAPPY PERSON RAISING [ HANDaPERSON RAISING BOTH HANDS IN CELEBRATIONzFROWNINGzdPOUTING ȏuFOLDED HANDSaȂƏLEAFa˰ɵƏLEAFaȭƏLEAFaǛƏLEAFaƵȂƏLEAFz˰ɵƏLEAFzȭƏLEAFzǛƏLEAFaȂƏVINE LEAFa˰ɵƏVINE LEAFaȭƏVINE LEAFaǛƏVINE LEAFaƠȂƏVINE LEAFo˰ɵƏVINE LEAFoȭƏVINE LEAFoǛƏVINE LEAFaȂƏBUDa˰ɵƏBUDaȭƏBUDaǛƏBUDaƠȂƏBUDo˰ɵƏBUDoȭƏBUDoǛƏBUDāOLǾQUILT ǃǊ% IN ƗǤaSOLID QUILT ǃǊ! IN ƗǤaƍROCKETaƤROCKETaƇROCKETaƚROCKETaɉȉET ǊaƠɉȉET ǊaȉǴET ǊaƠȉǴET ǊoAMPERSxǊaSWASH AMPERSxǊāANS-SERIF Ơ^Ƶȿ Ǣ= Ǌhȿ Ǣ= ǊkǾ^ȿ Ǣ= ǊaƠINTERROBANG ǊaȁINTERROBANG ǊaƠȁINTERROBANG ǊaɹƠʰ(ɅʰaCHECKER BOARDaɅCHECKER BOARDāOCKETaHELICOPTERaSTEAM LOCOMOTɊaRAILWAY CARaHIGH-SPEED TRAINg dBULLET NOSEaTRAINaMETROaǉRAILaSTATIONaTRAMĄ CARaBUSaONCOMING BUSaTROLLEYBUSaBUS STOPaMINIBUSaAMBULANCEaFIRE ENGINEaPOLICE CARaONCO",
  "MING POLICE CARaTAXIaONCOMING TAXIaAUTOMOBILEaONCOMING AUTOMOBILEaRECREATIONAL VEHICLEaDELIɹTRUCKaARTICULATED LORRYaTRACTORaMONORAILĂUNTAIN RAILWAYaSUSPENSION RAILWAYaMOUNTAIN CABLEWAYaAERIAL TRAMWAYaSHIPaROWBOATaSPEEDBOATaƘTRAFFIC ɶaƋTRAFFIC ɶaCONSTRUCTION >aPOLICE CARS REVOLVING ɶaȀFLAG ON POSTaDOORaNO ENTRY >aSMOKING ƝaNO SMOKING ƝaPUT LITTER IN ITS PLACE ƝaDO ɆLITTER ƝaPOTABLE WATER ƝaNON-POTABLE WATER ƝaBICYCLEaNO BICYCLESaBICYCLISTaMOUNTAIN BICYCLISTaPEDESTRIANaNO PEDESTRIANSaCHILDREN ɠINGaMENS ƝaWOMENS ƝaRESTROOMaBABY ƝaTOILETaWATER CLOSETaSHOWERaBATHĄTUBaPASSPORT CONTROLaCUSTOMSaBAGGAGE CLAIMa<LUGGAGEaƼ dˠ˯SaPROHIBITED >aǌ˺SOURCEaBOYS ƝaGIRLS ƝaCOUCH xLAMPaSLEEPING ACCOMMODATIONāHOPPING BAGSaBELLHOP BELLĂDaPLACE ǭWORSHIPaOCTAGONAL >aSHOPPING TROLLEYāTUPAaPAGODAaHINDU TEMPLEāUTaELEV",
  "ATOR#1F6DDaPLAYGROUND SLIDEaWHEELaȆBUOYaHAMMER xWRENCHaSHIELDaOIL DRUMaMOTORWAYaRAILWAY TRACKaMOTʒBOATaUP-ƏMILITARY AIRPLANEuAIRPLANEurAIRPLANEarAIRPLANEaNORTHEAST-ƏAIRPLANEaAIRPLANE DEPARTURE$ARRIVING#1F6F0aSATELLITEaONCOMING FIRE ENGINEaDIESEL LOCOMOTɊaPASSENGER SHIPaSCOOTERaMOTʒSCOOTERaCANOEaSLEDaFLYING SAUCERaSKATEBOARDaAUɫRICKˈWaPICKɁTRUCKaROLLER SKATE#1F700aALCHEMICAL Ɲ ʅQUINTESSENCEpAIRpFIREpEARTHpWATERpAQUAFORTISv REGIAt-2!VITAEt-2pVINEGAR&-2+3pSULFURpPHILOSOPHERS SULFURpƗSULFURpMERCURY SUBLIMATEħ-2Ĩ3pCINNAɢpSALTpNITREpVITRIOL&-2pROCK SALTs-2pGOLDpSILVERpIRON ORE+-2pCROCUS ǭIRONpREGULUS ǭIRONpCOPPER OREpIRON-COPPER OREpSUBLIMATE ǭCOPPERpCROCUS ǭCOPPERĦ-2lOPPER ANTIMONIATEpSALT ǭCOPPER ANTIMONIATElUBLIMATE ǭSALT ǭCOPPERpVERDIGRISpTIN OREpLEAD OREpANTIMONY OREpSUBLIMATE ǭANTIMONYlALT",
  " ǭANTIMONYlUBLIMATE ǭSALT ǭANTIMONYpVINEGAR ǭANTIMONYpREGULUS ǭANTIMONYĩ-2&&-2+3+4pALKALI%-2pMARCASITEpSAL-AMMONIACpARSENICpREALGAR&-2pAURIPIGMENTpBISMUTH OREpTARTAR%-2pQUICK LIMEpBORAX!-2%3pALUMpOILpSPIRITpTINCTUREpGUMpWAXpPOWDERpCALXpTUTTYpCAPUT MORTUUMpSCEPTER ǭJOVEpCADUCEUSpTRIDENTpɗRED TRIDENTpLODEST[pSOAPpURINEpHORSE DUNGpASHESpPOT ASHESpBRICKpPOWDERED BRICKpAMALGAMpSTRATUM SUPER STRATUMī-2lUBLIMATIONpPRECIPITATEpDISTILLqSOLVE+-2pPURIFYhTREFACTIONpCRUCIBLE+-2s3s4s5pALEMBICpBATH ǭMARY+VAPOURSpRETORTpHOURpNIGHTpDAY-NIGHTpMONTHpƺDRAM!OUNCE#1F780aƗȱƏISOSCELES :ƼoUP-ƏISOSCELES :Ƽoǆ-ƏISOSCELES :Ƽoˎ-ƏISOSCELES :ƼoSɶLY rǜaƿɺƔǜaɺƔǜaƠƔǜaɹƠƔǜaEXTREMELY ƠƔǜaƔƸ˨ƗrǜaROUND TARGETaƗTINY ǤoSɶLY rǤaǉƔǤaƿƔǤaɺƔǤaƠƔǤaɹƠƔǤaEXTREMELY ƠƔǤaƔǃ˨ƗɹrǤ+ƿǤaǃTARGETaƗTINY ȼoɹrȼoƿrȼaƔȼ ˨Ɨɹrȼsƿȼaȼ TARGETaƗTINY ˼oɹr˼oƿ",
  "r˼aƔ˼ ˨Ɨr˼aTHIN ɛɠaǉɛɠaƿɛɠaɺɛɠaɹɺɛɠąƠɛɠaEXTREMELY ƠɛɠaTHIN SALTIREaǉSALTIREaƿSALTIREaɺSALTIREaƠSALTIREaɹƠSALTIREaEXTREMELY ƠSALTIREaǉȠǀaƿȠǀaɺȠǀaƠȠǀaɹƠȠǀaEXTREMELY ƠȠǀaǉɌ ǀaƿɌ ǀaɺɌ ǀaƠɌ ǀaɹƠɌ ǀaEXTREMELY ƠɌ ǀaǉǄ ǀaƿǄ ǀaɺǄ ǀaƠǄ ǀaɹƠǄ ǀaǉƽǮƗɗaƿƽǮƗɗaƽǮƗɗaƿƽǮˑɗaǉ~ ǮƗɗaƿ~ ǮƗɗa~ ǮƗɗaƿ~ ǮˑɗaɅǉ~ ǮˑɗaǉȠǮƗɗaƠȠǮƗɗaƿɌ ǮƗɗaƠɌ ǮƗɗaɌ ǮˑɗaƿǄ ǮƗɗaƠǄ ǮƗɗaɹƠǄ ǮƗɗaƠǄ ǮˑɗaǉTWELVE ǮƗɗaƠTWELVE ǮƗɗfˑɗaǌƼaNEGATɊ ǌƼaǌǤaNEGATɊ ǌǤ#1F7E0aȤORANGE ǜoYELǾǜoGREEN ǜoPURPLE ǜoBROWN ǜoRED ǤoBLUE ǤoORANGE ǤoYELǾǤoGREEN ǤoPURPLE ǤoBROWN Ǥ#1F7F0aƠȟ>#1F800aƍ_drƼ *ȮaƤ_drƼ *ȮaƇ_drƼ *Ȯaƚ_drƼ *Ȯaƍ_dƿƼ *ȮaƤ_dƿƼ *ȮaƇ_dƿƼ *Ȯaƚ_dƿƼ *Ȯaƍ_dȤƼ *ȮaƤ_dȤƼ *ȮaƇ_dȤƼ *Ȯaƚ_dȤƼ *Ȯ#1F810aƍ_drǣ*ȮaƤ_drǣ*ȮaƇ_drǣ*Ȯaƚ_drǣ*Ȯaƍ_dǣ*ȮaƤ_dǣ*ȮaƇ_dǣ*Ȯaƚ_dǣ*ȮaƠƍ_dǣ*ȮoƤ_dǣ*ȮoƇ_dǣ*Ȯoƚ_dǣ*Ȯoƍ_dȤǣ*ȮoƤ_dȤǣ*ȮoƇ_dȤǣ*Ȯoƚ_dȤǣ*Ȯaƍƌ_dN_ˈFTaƤƌ_dN_ˈFTaƇƌ_dN_ˈFTaƚƌ_dN_ˈFTaƍƌ_",
  "dƿˈFTaƤƌ_dƿˈFTaƇƌ_dƿˈFTaƚƌ_dƿˈFTaƍƌ_dɺˈFTaƤƌ_dɺˈFTaƇƌ_dɺˈFTaƚƌ_dɺˈFTaƍƌ_dƠˈFTaƤƌ_dƠˈFTaƇƌ_dƠˈFTaƚƌ_dƠˈFTaƍƌ_dɹƠˈFTaƤƌ_dɹƠˈFTaƇƌ_dɹƠˈFTaƚƌ_dɹƠˈFTaƍFINGER-POST *aƤFINGER-POST *aƇFINGER-POST *aƚFINGER-POST *aƍǤD *aƤǤD *aƇǤD *aƚǤD *aƍʹ*aƤʹ*aƇʹ*aƚʹ*aƍƠʹ*aƤƠʹ*aƇƠʹ*aƚƠʹ*aƍƠ*aƤƠ*aƇƠ*aƚƠ*#1F850aƍȁ*aƤȁ*aƇȁ*aƚȁ*aȂȁ*oEAST ȁ*aǛȁ*oɵȁ*a<:ȁ*aɁǂȁ*#1F860aWIDE-ȮED ƍǉǍ*uƤǉǍ*uƇǉǍ*uƚǉǍ*uȂǉǍ*mEAST ǉǍ*uǛǉǍ*mɵǉǍ*uƍǍ*uƤǍ*uƇǍ*uƚǍ*uȂǍ*mEAST Ǎ*uǛǍ*mɵǍ*uƍƿǍ*uƤƿǍ*uƇƿǍ*uƚƿǍ*uȂƿǍ*mEAST ƿǍ*uǛƿǍ*mɵƿǍ*uƍƠǍ*uƤƠǍ*uƇƠǍ*uƚƠǍ*uȂƠǍ*mEAST ƠǍ*uǛƠǍ*mɵƠǍ*uƍɹƠǍ*uƤɹƠǍ*uƇɹƠǍ*uƚɹƠǍ*uȂɹƠǍ*mEAST ɹƠǍ*uǛɹƠǍ*mɵɹƠǍ*#1F890aƍƼ *ȮaƤƼ *ȮaƇƼ *ȮaƚƼ *ȮaƍƔ_WITHIN Ƽ *ȮaƤƔ_WITHIN Ƽ *ȮaƇƔ_WITHIN Ƽ *ȮaƚƔ_WITHIN Ƽ *Ȯaƍ_dNOTCHED ȵaƤ_dNOTCHED ȵaƇ_dNOTCHED ȵaƚ_dNOTCHED ȵaƠ_ˈFT WIDTH [hǐTHIRDSh[ HALF%THIRDaƍBOTTOM-ˈDED Ɣ*aƇȩˈDED Ɣ*aƍʐˈDED Ɣ*aƇʐˈDED Ɣ*aƍȱˈDED Ɣ*",
  "aƇǆ-ˈDED Ɣ*aƍǆ-ˈDED Ɣ*aƇȱˈDED Ɣ*aƍBACK-TILTED ȷƔ*aƇBACK-TILTED ȷƔ*aƍFRONT-TILTED ȷƔ*aƇFRONT-TILTED ȷƔ*aƔ_ˈFT WIDTH [hǐTHIRDS#1F8B0a_ƏƤTHEN NORTH WESTcƇTHEN CURVING ˰WEST#1F900aǌɠ FORMEE d~ ʓSvǐʓSja<ƺƸd~ ʓSpƽʓSlWO ʓSpʓgaˎWARD ˷ǶgNOTCHED ǶgǶ dʓgNOTCHED Ƕ dʓaPINCHED FINGERSaƔHEARTaBROWN HEARTaPINCHING HANDaZIPPER-MOUTH ȏaM[Y-MOUTH ȏaȏ dTHERMOMETERaNERD ȏaTHINKING ȏaȏ dȮ-BANDAGEaROBOT ȏaHUGGING ȏa@ǭTHE HORNSaCALL ME HANDaɖBACK ǭHANDaȱ˷FISTaǆ-˷FISTaHANDˈKEĄ dǕxƖɞɠEDaI LOVE YOU Hx>aȏ dCOWBOY HATaCLOWN ȏaNAUSEATED ȏaROLLING ON THE FLOʒLAUGHINGaDROOLING ȏaLYING ȏaȏ PALMaSNEEZING ȏaȏ d[ EYEBROW RAISEDaGRINNING ȏ dɗ EYESb[ Ȥx[ rEYEaȏ dFINGER COVEȆȖLIPSaSERIOUS ȏ dƝS COVEȆMOUTHāMILING ȏ dɩEYES xHxCOVEȆMOUTHaȏ dǴMOUTH VOMITINGaSHOCKED ȏ dEXPLODING ȮaPREGNANT WOMANaBREAST-FEEDINGaPALMS ɁTOGETHERaSELFIE",
  "aPRINCEaMAN IN TUXEDOāOTHER CHRISTMASaSHRUGaPERSON DOING CARTWHEELaJUGGLINGaFENCERaMODERN PENTATHLONaWRESTLERSāATER POLOaHANDBALLaDIVING MASKaWILTED FLOWERaDRUM dDRUMSTICKSaCLINKING GLASSESaTUMBLER GLASSaSPOONaGOAL NETaRIFLEaFIRST PLACE MEDALaSECOND PLACE MEDALaTHIRD PLACE MEDALaBOXING GLOVEaMARTIAL ARTS UNIFORMaCURLING ST[aLAɠE STICK xBALLaSOFTBALLaFLYING DISCaCROISSANTaAVOCADOaCUCUMBERaBACONaPOTATOaCARROTaBAGUETTE BREADaGREEN SALADaˈLǾPAN ǭFOODāTUFFED FLATBREADaEGGaGLASS ǭMILKaPEANUTSaKIWIFRUITaPANCAKESaDUMPLINGaFORTUNE COOKIEaTAKEOUT BOXaCHOPSTICKSaBOWL dSPOONaCɁdSTRAWāOCONUTaBROCCOLIaPIEāRETZELaCUT ǭMEATaSANDWICHaCANNED FOODaLEAFY GREENaMANGOāOON CAKEaBAGELaɩȏ dɩEYES xƽʳaYAWNING ȏaɩȏ dTEARaȏ dPARTY ˁxPARTY HAT,UNǩ EYES xWAVY MOUTHaOVERHEATED ȏaFREEZING ȏaNINJAaDISGUISED ȏaȏ HOLDING BAC",
  "K TEARSądPLEADING EYESaSARIaLAB COATaGOGGLESaHIKING BOOTaFLAT SHOEaCRABaLION ȏaSCORPIONaTURKEYaUNICORN ȏaEAGLEaDUCKaBATaˈRKaOWLaFOX ȏaBUTTERFLYaDEERaGORILLAaLIZARDaRHINOCEROSaSHRIMPāQUIDaGIRAFFE ȏaZEBRA ȏaHEDGEHOGaSAUROPODaT-REXaCRICKETaKAʭROOaLLAMAaPEACOCKaHIPPOPOTAMUSaPARROTaRACCOONaLOBSTERaMOSQUITOāICROBEaBADGERaSWANaMAMMOTHaDODOaSLOTHaOTTERāRANGUTANaSKUNKaFLAMINGOaOYSTERaBEAVERāISONaSEALaGUIDE DOGaPROBING CANEaEMOJI COMP[NT RED HAIRgɕHAIRgBALDgƔHAIRaB[aLEGaFOOTaTOOTHaSUPERHEROąVILLAINāAFETY VESTaEAR dHEAȆAIDaMOTORIZED WHEELCHAIRāANUAL WHEELCHAIRāECHANICAL ARM(LEGaCHEESE WEDGEāUPCAKEaSALT ˈKERaBEVERAGE BOXaGARLICaONIONaFALAFELaWAFFLEaBUTTERaMATE DRINKaICE CUBEaBUBBLE TEAaTROLLaSTANDING PERSONaKNEELING PERSONaDEAF PERSONaȏ dMONOCLEaADULTaCHILDaOLDER ADULTaBEARDED PERSONaPERSON dȮSCARFzIN",
  " STEAMY ROOMzCLIMBINGzIN LOTUS POSITIONaMAGEaFAIRYaVAMPIREaMERPERSONaELFaGENIEaZOMBIEaBRAINaORANGE HEARTaBILLED CAPaSCARFaGLOVESaCOATaSOCKSaRED GIFT ENVELOPEaFIRECRACKERaJIGSAW PUZZLE PIECEaTEST TUBEaPETRI DISHaDNA ^HELIXaCOMPASSaABACUSaFIRE EXTINGUISHERaTOOLBOXaBRICKaMAGNETaLUGGAGEāOTION BOTTLEaSPOOL ǭTHREADaBALL ǭYARNaSAFETY PINaTEDDY BEARaBROOMāASKETaROLL ǭPAPERaɢ ǭSOAPaSPONGEaRECEIPTaNAZAR AMULETāEUTRAL ʇKINGeQUEENeROOKeBISHOPeKNIGHTePAWNaƔǯFORTY-ȠȣaƗǯFORTY-ȠȣaʀǯFORTY-ȠȣaƔʇKING ƬuQUEEN ƬuROOK ƬuBISHOP ƬuKNIGHT ƬuPAWN ƬaƗʇKING ƬuQUEEN ƬuROOK ƬuBISHOP ƬuKNIGHT ƬuPAWN ƬaʀʇKING ƬeQUEEN ƬeROOK ƬeBISHOP ƬeKNIGHT ƬePAWN ƬaƔǯ[ ƫ THIRTY-ȠȣaƗǯ[ ƫ THIRTY-Ƞȣaʀǯ[ ƫ THIRTY-ȠȣaƔʇƵKINGbQUEENbROOKbBISHOPbKNIGHTbPAWNaƗʇƵKINGbQUEENbROOKbBISHOPbKNIGHTbPAWNaʀʇƵKINGfQUEENfROOKfBISHOPfKNIGHTfPAWNaƔǯǐƫ Tɷ-Ƞȣa",
  "Ɨǯǐƫ Tɷ-Ƞȣaʀǯǐƫ Tɷ-ȠȣaƔʇKING ƩȣuQUEEN ƩȣuROOK ƩȣuBISHOP ƩȣuKNIGHT ƩȣuPAWN ƩȣaƗʇKING ƩȣuQUEEN ƩȣuROOK ƩȣuBISHOP ƩȣuKNIGHT ƩȣuPAWN ƩȣaʀʇKING ƩȣeQUEEN ƩȣeROOK ƩȣeBISHOP ƩȣeKNIGHT ƩȣePAWN ƩȣaƔǯƽƫ FIFˍ ȣaƗǯƽƫ FIFˍ ȣaʀǯƽƫ FIFˍ ȣaƔʇEQUIHOPPERaƗʇEQUIHOPPERaʀʇEQUIHOPPERaƔʇEQUIHOPPER ƬaƗʇEQUIHOPPER ƬaʀʇEQUIHOPPER ƬaƔʇKNIGHT-QUEENbROOKbBISHOPaƗʇKNIGHT-QUEENbROOKbBISHOP#1FA60aXIANGQI RED GENERALuMANDARINuELEPHANTuHORSEuCHARIOTnANNONuSOLDIER.ƗGENERALeMANDARINeELEPHANTeHORSEeCHARIOTcANNONeSOLDIER#1FA70aBALLET SHOESa[-PIECE SWIMSUITaBRIEFSaSHORTSaTHONG SANDAL#1FA78aDROP ǭBLOODaADHESɊ BANDAGEaSTETHOSCOPEaX-RAYaCRUTCH#1FA80aYO-YOaKITEaPARACHUTEaBOOMERANGaMAGIC WANDaPINATAaNESTING DOLLS#1FA90aʏED PLANETaCHAIRaRAZORaAXEaDIYA LAMPaBANJOaMILITARY HELMETaACCORDIONaǬDRUMaCOINāARPENTRY SAWaSCREWDRɊRaLADDERaǶaMIRR",
  "ORaWINDOWaPLUNGERaSEWING NEEDLEaKNOTaBUCKETaMOUSE TRAPaTOOTHBRUSHaȮST[aPLACARDaROCKaMIRRʒBALLaIDENTIFICATION CARDaǾBATTERYaHAMSA#1FAB0aFLYaWORMaBEETLEaCOCKROACHaPOTTED PLANTaWOODaFEATHERaLOTUSaCORALaEMPTY NESTaNEST dEGGS#1FAC0aANATOMICAL HEARTaLUNGSaPEOPLE HUGGINGāREGNANT MAN$PERSONāERSON dCROWN#1FAD0aBLUEBERRIESāELL PEPPERaOLɊaFLATBREADaTAMALEaFONDUEaTEAPOTaPOUȆLIQUIDaBEANSaJAR#1FAE0aMELTING ȏaSALUTING ȏaȏ dǴEYES xHxƹMOUTH,PEEKING EYE,ǙMOUTHaȗȍȏaBITING LIPāUBBLES#1FAF0aHxdǕFINGER xǝɠEDaƇHANDaƍHANDaPALM ǂHANDąɁHANDaǕƏAT THE VIEWERaHEART HANDS#1FB00aȞ SEXTANT-1e2e12e3e13e23e123e4e14e24e124e34e134e234e1234e5e15e25e125e35e235e1235e45e145e245e1245e345e1345e2345e12345e6e16e26e126e36e136e236e1236e46e146c246e346e1346e2346e12346e56e156e256e1256e356e1356e2356e12356e456e1456e2456e12456e3456e13456e23",
  "456aƷ<Ȟ ǙƷƖ<ɫƷɑĵǆvƾƖ<ɫƷɑĵǆt<ɫƷɑo:Ȟ ǙƾƖ<ɫƾɑĶǆ!ƷƖ<ɫƾɑĶǆ;<ɫƾɑ;Ɩ<ɫƾƖǆ;țƷƖǆ;<ɫƷƖǆ;țƾƖǆ;<ɫƾƖǆ;țƾǆo<Ȟ ǙƾțƾƖǆt<ɫƾƖǆtțƷƖǆt<ɫƷƖǆtțƷǆtƖ<ɫƷƖǆaƾ:Ȟ ǙƷƖ<ɫƷɑĶǆ!ƾƖ<ɫƷɑĶǆ;<ɫƷɑo<Ȟ ǙƾƖ<ɫƾɑĵǆvƷƖ<ɫƾɑĵǆt<ɫƾɑtƖ<ɫƾƖǆtțƷƖǆt<ɫƷƖǆtțƾƖǆt<ɫƾƖǆtțƾǆo:Ȟ ǙƾțƾƖǆ;<ɫƾƖǆ;țƷƖǆ;<ɫƷƖǆ;țƷǆ;Ɩ<ɫƷƖǆox:xƷȀƽˏȞa<xƷx:ȀƽˏȞaƾx<xƷȀƽˏȞa<xƾx:ȀƽˏȞąȀ[ ȧȞaƾȀ[ ȧȞa:Ȁ[ ȧȞaƷȀ[ ȧȞaƋ[ ǄH Ȟ-2v3v4v5v6v7aƘ[ ǄH Ȟ-2%3%4%5%6%7a<xƷ[ ǄH Ȟ$ƾ[ ǄH Ȟa:xƾ[ ǄH Ȟ,Ʒ[ ǄH ȞaƾxƷ[ ǄH ȞaƘ[ ǄH Ȟ-1358aƾ[ ȧȞoƽǄHS ȞoȠǄHS ȞoƽˏȞoSǩ ǄHS Ȟa:[ ȧȞoƽǄHS ȞoȠǄHS ȞoƽˏȞoSǩ ǄHS Ȟa<ƺƿˈDEa:ƺƿˈDEaƾƺƿˈDEaƷƺƿˈDEa˩ƿˈDEaƾƺȞ xƷƺ˩ƿˈDE(˩ƿˈDE xƷƺȞ#1FB94a<ƺ˩ƿˈDE x:ƺȞaCHECKER BOARD FILLa˩CHECKER BOARD FILLaƠƘFILLaƾ<ɫƷ:FILLo:ɫƷ<FILLoxƷȀƺȞa<x:ȀƺȞaƾ<ȀƿˈDEo:ȀƿˈDEaƷ:ȀƿˈDEo<ȀƿˈDEaBOX DRAWINGS ǉǙƾțƖȶĳǆ%Ɩ<ɫƷɑģ:ɫƷɑ%ƾțƖ<ɫƷɑĳ:ɫƷɑ%Ɩ<ɫƷțƖǆīƾțƖǆ%ƾțƖ<xƖ:ɫƷɑĳ:xƖ<ɫƷɑĹɫƷțƖȶĳ<ɫƷțƖǆ%Ɩ<ɫƾțƖ:ɫƷɑģ:ɫƾțƖ<ɫƷɑ%ȼbƘdƋƜa*Ȯ-ʱPOINT",
  "ERa˩CHECK =a<ƺRUNNING MANa:ƺRUNNING MANa˩ƚ_dTIP ȶWARDSaƍ_xƾxƷ[ ǄH ȞaƇ_xƾxƷ[ ǄH Ȟaƚ_x:[ ǄH ȞaƤ_x:[ ǄH Ȟa<ƺFOLDERa:ƺFOLDERaVOIDED ɛɠa:ǴǤD ʓaNEGATɊ ǙɠmƖ:ɫƷɑmȼaƔƠSALTIRE dˠ˯Sa<THIRD Ɣ:ƏȾaƖTHIRD Ɣ:ƏȾa:THIRD Ɣ:ƏȾaNEGATɊ ǤD Ȉ=aSTICK FIGUREu dARMS RAISEDnLEANING ȶfǆndDRESSaƔUP-ƏCHEVRON#1FBF0aSEGMENTED ƣg[gȒkǘg~kɊgɌkǩgǄgǰ#2F800aCJK COMPATIBILITY IDEOGRAPH-2F800t1t2t3t4t5t6t7t8t9tAtBtCtDtEtFs10t1t2t3t4t5t6t7t8t9tAtBtCtDtEtFs20t1t2t3t4t5t6t7t8t9tAtBtCtDtEtFs30t1t2t3t4t5t6t7t8t9tAtBtCtDtEtFs40t1t2t3t4t5t6t7t8t9tAtBtCtDtEtFs50t1t2t3t4t5t6t7t8t9tAtBtCtDtEtFs60t1t2t3t4t5t6t7t8t9tAtBtCtDtEtFs70t1t2t3t4t5t6t7t8t9tAtBtCtDtEtFs80t1t2t3t4t5t6t7t8t9tAtBtCtDtEtFs90t1t2t3t4t5t6t7t8t9tAtBtCtDtEtFsA0t1t2t3t4t5t6t7t8t9tAtBtCtDtEtFsB0t1t2t3t4t5t6t7t8t9tAtBtCtDtEtFsC0t1t2t3t4t5t6t7t8t9tAtBtCtDtEtFsD0t1t2t3t4t5t6t7t8t",
  "9tAtBtCtDtEtFsE0t1t2t3t4t5t6t7t8t9tAtBtCtDtEtFsF0t1t2t3t4t5t6t7t8t9tAtBtCtDtEtF+900t1t2t3t4t5t6t7t8t9tAtBtCtDtEtFs10t1t2t3t4t5t6t7t8t9tAtBtCtDtEtFs20t1t2t3t4t5t6t7t8t9tAtBtCtDtEtFs30t1t2t3t4t5t6t7t8t9tAtBtCtDtEtFs40t1t2t3t4t5t6t7t8t9tAtBtCtDtEtFs50t1t2t3t4t5t6t7t8t9tAtBtCtDtEtFs60t1t2t3t4t5t6t7t8t9tAtBtCtDtEtFs70t1t2t3t4t5t6t7t8t9tAtBtCtDtEtFs80t1t2t3t4t5t6t7t8t9tAtBtCtDtEtFs90t1t2t3t4t5t6t7t8t9tAtBtCtDtEtFsA0t1t2t3t4t5t6t7t8t9tAtBtCtDtEtFsB0t1t2t3t4t5t6t7t8t9tAtBtCtDtEtFsC0t1t2t3t4t5t6t7t8t9tAtBtCtDtEtFsD0t1t2t3t4t5t6t7t8t9tAtBtCtDtEtFsE0t1t2t3t4t5t6t7t8t9tAtBtCtDtEtFsF0t1t2t3t4t5t6t7t8t9tAtBtCtDtEtF+A00t1t2t3t4t5t6t7t8t9tAtBtCtDtEtFs10t1t2t3t4t5t6t7t8t9tAtBtCtD#E0001aLANGUAGE TAG#E0020aTAG ʻĄǧ=ĄǢ=ĄǇ>ĄDOLLAR >ĄPERCENT >ĄAMPERSANDąPOSTROPHEĄ<ǒĄ:ǒĄɮĄƳ>ĄȿĄHYPHEN-MINUSĄǈĄʰĄƣ,[,Ȓ(ǘ,~(Ɋ,Ɍ(ǩ,Ǆ,ǰ",
  "ĄʧĄSEMIʧĄǅ>Ąȟ>Ąƪ>ĄȈ=ĄCOMMERCIAL ATĄǱwiAqBqCqDqEqFqGqHqIqJqKqLqMqNqOqPqQqRqSqTqUqVqWqXqYqZąEFT ǃƥĄɅʰąIGHT ǃƥĄƧȰĄǾʄĄȐ ȰĄǱriAlBlClDlElFlGlHlIlJlKlLlMlNlOlPlQlRlSlTlUlVlWlXlYlZąEFT ɕƥĄƋʄĄ:ɕƥĄȅaCANCEL TAG#E0100aȬTION SELECTOR-17j8j9b20j1j2j3j4j5j6j7j8j9b30j1j2j3j4j5j6j7j8j9b40j1j2j3j4j5j6j7j8j9b50j1j2j3j4j5j6j7j8j9b60j1j2j3j4j5j6j7j8j9b70j1j2j3j4j5j6j7j8j9b80j1j2j3j4j5j6j7j8j9b90j1j2j3j4j5j6j7j8j9b100f1f2f3f4f5f6f7f8f9j10f1f2f3f4f5f6f7f8f9j20f1f2f3f4f5f6f7f8f9j30f1f2f3f4f5f6f7f8f9j40f1f2f3f4f5f6f7f8f9j50f1f2f3f4f5f6f7f8f9j60f1f2f3f4f5f6f7f8f9j70f1f2f3f4f5f6f7f8f9j80f1f2f3f4f5f6f7f8f9j90f1f2f3f4f5f6f7f8f9b200f1f2f3f4f5f6f7f8f9j10f1f2f3f4f5f6f7f8f9j20f1f2f3f4f5f6f7f8f9j30f1f2f3f4f5f6f7f8f9j40f1f2f3f4f5f6f7f8f9j50f1f2f3f4f5f6#0aNUL#0ăLaSOH#1āTART ǭȮING$TEXT#2ĂXaʬǭTEXT#3āTXāND ǭTRANSMISSION#4āOTāNQ",
  "#5ăUIRYaACK#6ăNOWLEDGEāLERT#7aBELāACKʻ#8āSaɽTABULATION#9aƘTABULATION#9āT#9aTABaʬǭʄ#AāOL#AaLF#AāINE FEED#AaNEW ʄ#AāLaȍTABULATION#BaƋTABULATION#BāTaFF#CāORM FEEDaCARRIAGE RETURN#DāRaLOCKING-SHIFT [#EaSHIFT OUT#EāOaLOCKING-SHIFT ZERO#FaSHIFT IN#FāIaDATA LINK ESCAPE#10āLEāC1#11ā˂[āC2#12ā˂ȒāC3#13ā˂TǘāC4#14ā˂~aNAK#15āEGATɊ ACKNOWLEDGEaSYN#16ăCHRONOUS IDLEaʬǭTRANSMISSION Ȟ#17āTBaCAN#18ăCELaʬǭɋ#19āOMaSUB#1AăSTITUTEaESC#1BăAPEaFILE ȡ#1CāS#1Ca˺ȡ ~aGROɁȡ#1DāS#1Da˺ȡ TǘlWO#1EaRECORD ȡ#1EāSa˺ȡ [#1FaUNIT ȡ#1FāSaSP#7FaDEL#7FăETEaPAD#80ăDING CHARACTERaǡOCTET PRESET#81āOPaBPH#82āREAK PERMITTED HEREaNBH#83āO BREAK HEREaIND#84ăEXaNEL#85ĂXT ʄaSSA#86āTART ǭSELECTED AREAaʬǭSELECTED AREA#87āSAaɽTABULATION SET#88aƘTABULATION SET#88āTSaɽTABULATION dJUSTIFICATION#89aƘTABULATION dJUSTIFICATION#89āTJaȍTABULATION SET#8",
  "AaƋTABULATION SET#8AāTSaPARTIAL ȍˎ#8Bnʎ#8BāLDāARTIAL ȍBACKWARD#8CnUP#8CāLUaɅȾ#8D.ȍFEED#8DāIaȜ SHIFT Ȓ#8Eo-SHIFT-2#8EāS2āINGLE SHIFT Tǘ#8Fo-SHIFT-3#8FāS3aDCS#90ā˂STʏaPRIVATE USE [#91(-1#91āU1āRIVATE USE Ȓ#92(-2#92āU2aSET TRANSMIT STATE#93āTSaCANCEL CHARACTER#94āCHaMESSAGE WAITING#95āWaSPA#96āTART ǭGUARDED AREA#96$PROTECTED AREAaʬǭGUARDED AREA#97zPROTECTED AREA#97āPAaSOS#98āTART ǭSTʏāGC#99āINGLE GRAPHIC ɽINTRODUCERāCI#9AāINGLE ɽINTRODUCERaCONTROL SEQUENCE INTRODUCER#9BāSIaST#9CĂȆTERMINATORaOPERATING SYSTEM ȿND#9DāSCaPM#9EāRIVACY MESSAGEaAPC#9FĂPLICATION PROGRAM ȿNDaNBSP#ADaSHY#1A2aǱwiGHAoriGHA#34FaCGJ#61CaALM#709aSYRIAC SUBʄAR ʧ SKEWED ȶ#CDEaKANNADA iLLLA#E9DaLAO iFO FON#E9FcAY#EA3(RO#EA5(LO#FD0aTIBETAN = BKA- SHOG GI MGO RGYAN#11ECaHANGUL JONGSEONG YESIEUNG-ȻvʩȻkʩYESIEUNGkYESIEUNG-ʣ#180BaFV",
  "S1ă2ă3aMVSaFVS4#200BaZWSPĂNJĂJaLRMaRLM#202AaLREaRLEaPDFaLROaRLOaNNBSP#205FaMMSPaWJ#2066aLRIaRLIaFSIaPDI#2118aWEIERSTRASS ELLIPTIC FUNCTION#2448aMICR ON US Ɲą˃Ɲ#2B7Aaƍƌ_d^ƋƜ#2B7CaƇƌ_d^ƋƜ#A015aYI ɏʝ=#AA6EaMYANMAR iKHAMTI LLA#FE00aVS1Ă2Ă3Ă4Ă5Ă6Ă7Ă8Ă9Ă10ă1ă2ă3ă4ă5ă6#FE18aPRESENTATION ʮʅƋ:Ɣʞƥ#FEFFaBOM#FEFFāYTE ORDER =#FEFFaZWNBSP#122D4aCUNEIʮ@NU11 ʑjƹNU11 BUR ƹBUR#16E56aMEDEFAIDRIN wiH!NG#16E76uriHqNG#1B001aHENTAIGANA iE-1#1D0C5aBYZANTINE ʗƝ FTHORA SKLIRON CHROMA VASIS#E0100aVS17ă8ă9Ă20ă1ă2ă3ă4ă5ă6ă7ă8ă9Ă30ă1ă2ă3ă4ă5ă6ă7ă8ă9Ă40ă1ă2ă3ă4ă5ă6ă7ă8ă9Ă50ă1ă2ă3ă4ă5ă6ă7ă8ă9Ă60ă1ă2ă3ă4ă5ă6ă7ă8ă9Ă70ă1ă2ă3ă4ă5ă6ă7ă8ă9Ă80ă1ă2ă3ă4ă5ă6ă7ă8ă9Ă90ă1ă2ă3ă4ă5ă6ă7ă8ă9Ă100Ą1Ą2Ą3Ą4Ą5Ą6Ą7Ą8Ą9ă10Ą1Ą2Ą3Ą4Ą5Ą6Ą7Ą8Ą9ă20Ą1Ą2Ą3Ą4Ą5Ą6Ą7Ą8Ą9ă30Ą1Ą2Ą3Ą4Ą5Ą6Ą7Ą8Ą9ă40Ą1Ą2Ą3Ą4Ą5Ą6Ą7Ą8Ą9ă50Ą1Ą2Ą3Ą4Ą5Ą6Ą7Ą8Ą9ă60Ą1Ą2Ą3Ą4Ą5Ą6Ą7Ą8Ą9ă",
  "70Ą1Ą2Ą3Ą4Ą5Ą6Ą7Ą8Ą9ă80Ą1Ą2Ą3Ą4Ą5Ą6Ą7Ą8Ą9ă90Ą1Ą2Ą3Ą4Ą5Ą6Ą7Ą8Ą9Ă200Ą1Ą2Ą3Ą4Ą5Ą6Ą7Ą8Ą9ă10Ą1Ą2Ą3Ą4Ą5Ą6Ą7Ą8Ą9ă20Ą1Ą2Ą3Ą4Ą5Ą6Ą7Ą8Ą9ă30Ą1Ą2Ą3Ą4Ą5Ą6Ą7Ą8Ą9ă40Ą1Ą2Ą3Ą4Ą5Ą6Ą7Ą8Ą9ă50Ą1Ą2Ą3Ą4Ą5Ą6"]

end MailIngest.Text.CharName
