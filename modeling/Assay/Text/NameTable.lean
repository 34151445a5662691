/-!
The names of characters in Unicode 14, written short: a common word is written as one or two small
letters, and the words that a name shares with the one before it are only counted.
-/

namespace Assay.Text

/-- Names of consecutive code points, the first of which is `first`. A code point that has no name
has an empty one. -/
structure NameRun where
  first : Nat
  lines : List String

/-- The marks before a name: how many words it shares with the one before is the place of its
mark. -/
def shareMarks : String :=
  "!$%&*+,:;<=>"

/-- The words that are written short, those of one letter before those of two. -/
def commonWords : List String :=
  [
    "WITH LETTER SMALL FORM CAPITAL SIGN AND ARROW RIGHT ABOVE LEFT TWO BELOW FINAL ONE DOUBLE",
    "DOT MARK THREE BLACK ISOLATED WHITE FOUR HOOK STROKE SYMBOL FIVE INITIAL RIGHTWARDS HEAVY",
    "MIDDLE VERTICAL SIX EIGHT TIMES MEEM BAR PLUS LEFTWARDS SEVEN HALF HUNDRED DOWN NINE BRACKET",
    "SQUARE FACE CIRCLE DOTS YEH OVER THOUSAND EQUAL ALEF VOWEL LIGHT INDEX HORIZONTAL TILDE",
    "DIGIT RING DOWNWARDS TRIANGLE LOWER BARB LOW UPWARDS ACUTE MEDIUM HAH MEDIAL ZERO WEST-CREE",
    "UPPER THUMB TONE OPEN TURNED JEEM LONG TEN CIRCUMFLEX DASIA REVERSED PSILI DIAERESIS HIGH",
    "NGA STOP SHA ARROWHEAD TRIANGLE-HEADED LARGE SINGLE GRAVE CHA LINE NYA INVERTED POINTING",
    "MAKSURA MACRON KHA NUMBER ROTATED EAST VARIA OXIA COMMA THA LESS-THAN NOT GREATER-THAN",
    "VOCALIC BLOCK STAR LITTLE CENTRE BREVE HARPOON TAIL PHA CIRCLED KHAH WEST OLD ORNAMENT",
    "DEGREES ANGLE GUNU LATIN SHORT FULL ANUSVARA TTA DDA NORTH DHA NUN GHA ASTERISK TRIPLE CROSS",
    "DIAGONAL CARON ASH NNA PERISPOMENI OPERATOR BHA PUNCTUATION SOUTH PARENTHESIS RETROFLEX TTHA",
    "TOP VIRAMA TWENTY DASH TENU DESCENDER DIAMOND DDHA SSA COMBINING ACCENT NOON YPOGEGRAMMENI",
    "DOTTED NINETY OMEGA FOR WAW THE LAM VISARGA HAMZA JHA POINTED SQUARED EQUALS CLOSED SEVENTY",
    "HORN TACK SHE LIGATURE QUARTER ALPHA FIFTY AIN BOTTOM CORNER CHESS CANDRABINDU CROSSING",
    "HITTING COLON IOTA FROM HAND REH QUOTATION MODIFIER DANDA SHIN BENT END KAF TSA HAND-FIST",
    "QUESTION CEDILLA PALATAL ORKHON HEART BOLD YUS HEH PROSGEGRAMMENI UPSILON GLOTTAL DIGRAPH",
    "YENISEI KNIGHT VERY TAH EIGHTH SEEN RHO LLA GAR BOX NEO EXCLAMATION EPSILON RAISED SUBSET",
    "CURLY SIGMA MOON SIDE QAF IGI UNDERBAR COPTIC GREEK THETA NUKTA PHI RIGHT-POINTING",
    "EQUILATERAL SEPARATOR STRAIGHT SUPERSET SOLIDUS SECTION FINGERS SCRIPT SHELL CHI CHE",
    "SANS-SERIF CONSONANT ALTERNATE OVERLAY DAGESH DISH FEH SAD TRIANGULAR VARIANT SLANTED",
    "NEUTRAL THIRTY SPACE GAMMA SHAFT CURL WAVE LEAF ZHA REVERSE MOUTH EYES ETA MAN LEFT-POINTING",
    "DELTA NOTE BEH TEH RRA HAND-HINGE CONJOINED FRACTION INTEGRAL ARCHAION ARCHAIC ARABIC INSIDE",
    "TONOS SHEEN BETA HEAD ANTICLOCKWISE ABBREVIATION ALTERNATING TORTOISE OMICRON INSULAR SPOKED",
    "MINUS KAPPA FORTY CURVE LOOP KING REST GAN2 INTERSECTION HAND-CIRCLE BETWEEN SMILING FORWARD",
    "HEARTS GHAIN SIXTY SOUND UNION ALEPH BETH IOTIFIED AVAGRAHA SYLLABLE ALMOST SAMEKH ARROWS",
    "PERSON HINGED GIMEL SLASH QUEEN KOMI KAPH SHAD TAK4 GISH C-SIMPLIFIED IDEOGRAPHIC EQUIVALENT",
    "QUARTERS NEGATIVE QUADRANT OBLIQUE EIGHTHS OGONEK CANDRA LENGTH EIGHTY LAMEDH SADHE SHADE",
    "ZAIN HETH WORD TSHA KOET YODH UP-POINTING DIALYTIKA CYRILLIC DIAMONDS DOTLESS THROUGH BULLET",
    "TWELVE SPADES LAMDA ZAYIN EARTH CLUBS SOFT QUAD FILL SUPERSCRIPT CLOCKWISE MULTIPLE PRECEDES",
    "SUCCEEDS SHADOWED PRODUCT LOGICAL OVERBAR LOZENGE CROSSED CIRCLES RISING DASHED SPREAD POINT",
    "KASRA THIRD WATER ICHOS ZETA RESH MOVEMENT-FLOORPLANE MOVEMENT-WALLPLANE DOWN-POINTING",
    "HAND-ANGLE SEMICOLON TELEPHONE NOTEHEAD MUSICAL KRYZHEM POVYSHE HYPHEN Y-CREE TEDUNG ELEVEN",
    "BISHOP KASKAL OCLOCK PRIME ROUND FATHA RTAGS CHECK LAGAB WRIST YANG AYIN THEH ROOK PAWN FLAG",
    "BALL BACK MULTIPLICATION DOUBLE-STRUCK SIMALUNGUN TWO-HEADED QUADRUPLE KATAKANA CARRIER",
    "FIFTEEN SALTIRE ITALIC CURVED CLICK TSHEG MURDA ARABIC-INDIC MAHAAPRAANA ALPAPRAANA",
    "LEFT-STEM TWELFTHS NUMERAL ROUNDED SIXTEEN NASKAPI SVARITA ELEMENT INVERSE BARRED VOICED",
    "LUNATE TONE-2 TONE-5 NORMAL BESIDE DALETH SCHWA DAMMA CARET BIRGA FLOOR SHAR2 CRYPTOGRAMMIC",
    "CROSSED-TAIL APOSTROPHE CHARACTERS CHARACTER ITERATION SIDEWAYS EIGHTEEN ENVELOPE PINWHEEL",
    "CEILING NOTCHED LARGEST BAMBOOS TONE-3 HANGUL FILLER SAYISI THIRDS NUBIAN BUBBLE MADDA KAREN",
    "IEUNG CIEUC FIRST IMAGE UNDER HORSE HANDS GESH2 INDEPENDENT LENTICULAR COMPRESSED AMPERSAND",
    "INDICATOR THOUSANDS ABKHASIAN MAHAPRANA TURNSTILE EXTENSION SEVENTEEN DIALECT-P CRESCENTS",
    "ZAPYATAYA DIVISION OVERLINE EXTENDED ELLIPSIS CONTAINS PARALLEL SUBGROUP NOTATION THIRTEEN",
    "FOURTEEN NINETEEN MOUNTAIN OPPOSING SVETLAYA DODEKATA MOVEMENT BACKHAND CENTRED CHIEUCH",
    "KHIEUKH THIEUTH PHIEUPH SUBUNIT STATERS SHESHIG ZIGZAG MARKER KIYEOK TIKEUT PAIRED DRAGON",
    "LONSUM SECANT FINGER TEARDROP-SPOKED KLYUCHEVAYA VERTICALLY CONTAINING SUBSCRIPT BACKSLASH",
    "RECTANGLE FISHHOOK MILLIONS PLASTICS OUTLINED JAPANESE AIRPLANE HAND-CUP WRINKLED SIDDHAM",
    "FALLING SIMILAR TALENTS DOLLAR MATHEMATICAL DIFFERENTIAL SUBSTITUTION JIHVAMULIYA",
    "UPADHMANIYA SINGLE-LINE DOUBLE-LINE EQUIHOPPER SIXTEENTH SUBJOINED HAND-HOOK EXTREMELY",
    "FATHATAN ATTACHED INFINITY CRESCENT MONOGRAM SCISSORS HIRAGANA THESPIAN KHOKHLOM ZAPYATOY",
    "ANTIMONY DIGAMMA IZHITSA PARTIAL CORNERS IOTATED DIVIDER HOLDING VOLAPUK MEASURE BARLINE",
    "CONTACT ROTATION-FLOORPLANE ROTATION-WALLPLANE KATAKANA-HIRAGANA NEPOSTOYANNAYA",
    "LEFT-TO-RIGHT APPROXIMATELY BLACK-LETTER INTERROBANG COMMERCIAL GEMINATION SEMICIRCLE",
    "SEMIDIRECT PARAGRAPH KENTIMATA HAND-OVAL SUBLIMATE CENTRALIZATION RIGHT-SHADOWED",
    "GROMOPOVODNAYA RIGHT-TO-LEFT PARENTHESIZED EGYPTOLOGICAL HAND-CURLICUE HYPHEN-MINUS",
    "RIGHT-FACING CANCELLATION RIEUL-KIYEOK MIDDLE-WELSH J-SIMPLIFIED LEFT-FACING SSANGKIYEOK",
    "SSANGTIKEUT RIEUL-HIEUH NIEUN-CIEUC NIEUN-HIEUH RIEUL-MIEUM RIEUL-PIEUP APPROXIMATE",
    "TWENTY-FIVE TRESVETLAYA EKFONITIKON FINGER-POST PIEUP-SIOS-TIKEUT EYEGAZE-WALLPLANE"]

/-- The names of all characters but those whose names follow a rule. -/
def nameRuns : Array NameRun :=
  #[
    ⟨0x20, [
      "!pp!okij!noij!kxf!x3f!PERCENTf!wb!vf!icma!iama!ly!i3f!k2!zp!lqki!o5!jpj1$ig$id$ik$io$is$iy",
      "$i5$iz$i9!nj!th!k4f!m2f!k6f!nxij!zaAT!loebA&B&C&D&E&F&G&H&I&J&K&L&M&N&O&P&Q&R&S&T&U&V&W&X&Y",
      "&Z!icjbja!pwo5!iajbja!kbmn!jvkq!komn!locbA&B&C&D&E&F&G&H&I&J&K&L&M&N&O&P&Q&R&S&T&U&V&W&X&Y&Z",
      "!icooja!ixkq!iaooja!jo"]⟩,
    ⟨0xA0, [
      "!NO-BREAKpp!ksokij!CENTf!POUNDf!CURRENCYf!YENf!BROKENi2!o6f!kf!COPYRIGHTf!FEMININE ORDINALwc",
      "!p1ihlmnoij!k5f!sotn!REGISTEREDf!kv!DEGREEf!PLUS-MINUSf!srid$ik!jxmn!MICROf!PILCROWf!iwii!ny",
      "!srig!MASCULINE ORDINALwc!o0ihlmnoij!VULGARp9igm9&i6%ikrt!ksnxij!loebAako+jx+kb+jo+kf+jqib",
      "&AE&Cany&Eako+jx+kb+kf&Iako+jx+kb+kf&ETH&Najo&Oako+jx+kb+jo+kf!t9f!loebOaiq&Uako+jx+kb+kf",
      "&Yajx&THORN$cbSHARP S&Aako+jx+kb+jo+kf+jqib&AE&Cany&Eako+jx+kb+kf&Iako+jx+kb+kf&ETH&Najo",
      "&Oako+jx+kb+jo+kf!wmf!locbOaiq&Uako+jx+kb+kf&Yajx&THORN&Yakf$ebAakv$cbAakv$ebAalc$cbAalc",
      "$ebAary$cbAary$ebCajx$cbCajx$ebCakb$cbCakb$ebCaiiib$cbCaiiib$ebCal2$cbCal2$ebDal2$cbDal2",
      "$ebDaiq$cbDaiq$ebEakv$cbEakv$ebEalc$cbEalc$ebEaiiib$cbEaiiib$ebEary$cbEary$ebEal2$cbEal2",
      "$ebGakb$cbGakb$ebGalc$cbGalc$ebGaiiib$cbGaiiib$ebGany$cbGany$ebHakb$cbHakb$ebHaiq$cbHaiq",
      "$ebIajo$cbIajo$ebIakv$cbIakv$ebIalc$cbIalc$ebIary$cbIary$ebIaiiib$cbsfI$em8IJ$cm8IJ$ebJakb",
      "$cbJakb$ebKany$cbKany&KRA$ebLajx$cbLajx$ebLany$cbLany$ebLal2$cbLal2$ebLaiwii$cbLaiwii$ebLaiq",
      "$cbLaiq$ebNajx$cbNajx$ebNany$cbNany$ebNal2$cbNal2*PRECEDED BYvf$ebENG$cbENG$ebOakv$cbOakv",
      "$ebOalc$cbOalc$ebOaihjx$cbOaihjx$em8OE$cm8OE$ebRajx$cbRajx$ebRany$cbRany$ebRal2$cbRal2",
      "$ebSajx$cbSajx$ebSakb$cbSakb$ebSany$cbSany$ebSal2$cbSal2$ebTany$cbTany$ebTal2$cbTal2$ebTaiq",
      "$cbTaiq$ebUajo$cbUajo$ebUakv$cbUakv$ebUalc$cbUalc$ebUajqib$cbUajqib$ebUaihjx$cbUaihjx$ebUary",
      "$cbUary$ebWakb$cbWakb$ebYakb$cbYakb$ebYakf&Zajx$cbZajx$ebZaiiib$cbZaiiib$ebZal2$cbZal2&j9S",
      "&Baiq$ebBaip+TOPBAR$cbBaTOPBAR$ebj5iy$cbj5iy$ebj6O&Caip$cbCaip$ebAFRICAN D&Daip+TOPBAR",
      "$cbDaTOPBAR&j7p2$ebkdE&u7&j6E&Faip$cbFaip$ebGaip&pq$cbHV$ebnk&Iaiq&Kaip$cbKaip&Lai2",
      "&LAMBDAaiq$ebj7M&Naicip$cbNaj9iaLEG$ebOaiwjo+m5$cbOam5$ebOI$cbOI$ebPaip$cbPaip$bYR$ebj5id",
      "$cbj5id$ebESH$bkdESHqu$cbTanzip$ebTaip$cbTaip$ebTambip&Uam5$cbUam5$ebn6&Vaip&Yaip$cbYaip",
      "$ebZaiq$cbZaiq$ebEZH*kd$cbEZHkd*ale$bidaiq$ebj5is$cbj5is$bksn7kiaiq%WYNN%DENTALuk%LATERALuk",
      "%ALVEOLARuk%mbuk$ebDZal2&DacbZal2$cbDZal2$ebLJ&LacbJ$cbLJ$ebNJ&NacbJ$cbNJ$ebAal2$cbAal2",
      "$ebIal2$cbIal2$ebOal2$cbOal2$ebUal2$cbUal2$ebUakfgkv$cbUakfgkv$ebUakfgjx$cbUakfgjx$ebUakfgl2",
      "$cbUakfgl2$ebUakfgko$cbUakfgko&j7E$ebAakfgkv$cbAakfgkv$ebAaiiibgkv$cbAaiiibgkv$ebAEakv",
      "$cbAEakv$ebGaiq$cbGaiq$ebGal2$cbGal2$ebKal2$cbKal2$ebOary$cbOary$ebOarygkv$cbOarygkv",
      "$ebEZHal2$cbEZHal2&Jal2$ebDZ&DacbZ$cbDZ$ebGajx$cbGajx$ebHWAIR&WYNN&Nako$cbNako$ebAajqibgjx",
      "$cbAajqibgjx$ebAEajx$cbAEajx$ebOaiqgjx$cbOaiqgjx$ebAaihko$cbAaihko$ebAakslc$cbAakslc",
      "$ebEaihko$cbEaihko$ebEakslc$cbEakslc$ebIaihko$cbIaihko$ebIakslc$cbIakslc$ebOaihko$cbOaihko",
      "$ebOakslc$cbOakslc$ebRaihko$cbRaihko$ebRakslc$cbRakslc$ebUaihko$cbUaihko$ebUakslc$cbUakslc",
      "$ebSak2ie$cbSak2ie$ebTak2ie$cbTak2ie$ebYOGH$cbYOGH$ebHal2$cbHal2$ebNaj9iaLEG$cbDaps$ebOU",
      "$cbOU$ebZaip$cbZaip$ebAaiiib$cbAaiiib$ebEany$cbEany$ebOakfgkv$cbOakfgkv$ebOajogkv$cbOajogkv",
      "$ebOaiiib$cbOaiiib$ebOaiiibgkv$cbOaiiibgkv$ebYakv$cbYakv&Laps&Naps&Taps&sfJ&DBn8&QPn8$ebAaiq",
      "&Caiq$cbCaiq$ebLai2&Tal1iq$cbSaSWASHle&ZaSWASHle$ebn7ki$cbn7ki$ebBaiq&Ui2&j7V&Eaiq$cbEaiq",
      "$ebJaiq$cbJaiq$ebcQaiple$cbQaiple$ebRaiq$cbRaiq$ebYaiq$cbYaiq&j7A&na&j7na&Baip&j6O&Caps&Dale",
      "+ip&kdE&u7*aip&j6E&kdj6E,aip&m3kdj6E&sfJaiq&Gaip&o8G$bceG$cbpq&RAMSm5&j7H&Haip&HENGaip&Iaiq",
      "&nk$bceI$cbLaiwjo+BELT+mbip&LEZH&j7M+aj9LEG&Maip&Naicip+mbip$bceN$cbuzO$bceOE$cbm3ms&oz&j7R",
      "+aj9LEG,ip&Raj9LEG+le+xr&kdRaxr$bceR*ksR$cbSaip&ESH&sfJaiqgip&SQUATkdESH&ESHaps&j7T&Tambip",
      "&Ui2&n6&Vaip&j7V*W*Y$bceY$cbZambip+ps&EZH*aps$bn7ki%PHARYNGEALu0FRICATIVE%ksn7ki%STRETCHED C",
      "%BILABIALuk%ceB$cbm3j6E$bceGaip*H$cbJave&j7K$bceL$cbQaip$bn7kiaiq%kdn7kiaiq$cbDZn8&DEZHn8",
      "&DZn8aps&TSn8&TESHn8&TCn8aps&FENGn8&LSn8&LZn8$bBILABIAL PERCUSSIVE%BIDENTAL PERCUSSIVE",
      "$cbj7Haxr:gle!npbcH*aip&J&R&j7R+aip&eksR&W&Y%tu%ihtu%j7k2%vf%kdk2%iai6jq%ici6jq%n7ki%kdn7ki",
      "%ickk%iakk%UPkk%i8kk%kbmn!l2!npbixkq%kv%jxmn%komn%jvixkq&kv&komn&jxmn%pknj%i6pknj%w3iai6jq",
      "&ici6jq%UPm6%i8m6%i3f%qqf!lc!iiib!jqib!ry!cjo!ihjxmn!npbRHOTICip%l0mn%cpq&L&S&X&kdn7ki",
      "%EXTRA-HIGHj5i2%kgj5i2%MIDj5i2%jvj5i2%EXTRA-LOWj5i2%YIN DEPARTINGj5ij%t1DEPARTINGj5ij",
      "%VOICING%UNASPIRATED%ihvf%jvi8kk&UPkk&ickk&iakk&jq%iwkomn&ihkomn*jxmn%jvjo%omnj%BEGINkgj5",
      "%ntkgj5%BEGINjvj5%ntjvj5%SHELF%j6SHELF%jvich!mmkomn$jxmn$kbmn$jo$kv$wn$lc$iiib$kf$ipib$jqib",
      "$ihjxmn$l2$ixkqib$ihixkqib%komn$ng$kslc$j7k2ib$k2ib$kdk2ib$k2ibia$komnie$jxmnie$icm6ie",
      "$iam6ie$iclmib$m5$ici6jqie$UPm6ie$i8m6ie$i3fie$qqfie$PALATALIZEDipie$mbipie$iiie$kfie$jqie",
      "$k2ie$ny$ry$ixkqie$BRIDGEie$ksihARCHie$l2ie$kbmnie$lcie$kslcie$joie$kvie$jvkq$ihjvkq$jopf",
      "$lpiqpf$j9iqpf$lpo5pf$j9o5pf$iai6jqie$ksBRIDGEie$jbie$SEAGULLie$Xib$ixjo$ihwn$koj5ij$jxj5ij",
      "$owl5%KORONIS%scqf%mp$BRIDGEib$m2fie$ihixkqie$iclmie$k5joib$HOMOTHETICib$rdjiTOib$iciahie",
      "$jwhie$GRAPHEME JOINER$iakkib$ici6jqib$FERMATA$Xie$ickkie$iakkie&gUPkkie%i6jqib$iiibia$lyie",
      "$ihjqie$xbib$ihlcie%lc%kv&ie%jo%kslc%iuhie$locbA*E*I*O*U*C*D*H*M*R*T*V*X!owebHETA$cbHETA",
      "$ebqcSAMPI$cbqcSAMPI$usf$jtusf$ebPAMPHYLIANyr$cbPAMPHYLIANyr!!!owmp$ckdu1opir%mqu1opir",
      "%kdmqu1opir$nxij$ebYOT!!!!!owqf$scqf$ebnaaqf$ANO TELEIA$ebolaqf&pzaqf&nkaqf!!owebqnaqf!",
      "!owebn6aqf&msaqf$cbnkascgqf$ebna&qh&pq&p2&ol&tb&pz&ox&nk&qr&sk&MU&NU&XI&qn&PI&of!!owebop&TAU",
      "&n6&oz&pa&PSI&ms&nkasc&n6asc$cbnaaqf&olaqf&pzaqf&nkaqf&n6ascgqf&na&qh&pq&p2&ol&tb&pz&ox&nk",
      "&qr&sk&MU&NU&XI&qn&PI&of&ifop&op&TAU&n6&oz&pa&PSI&ms&nkasc&n6asc&qnaqf&n6aqf&msaqf$eKAIir",
      "$qhir$oxir$n6aipir&jxgipir&kfgipir$ozir$PIir$KAIir$bqcKOPPA$cbqcKOPPA$bSTIGMA$cbSTIGMA$byr",
      "$cbyr$bKOPPA$cbKOPPA$bSAMPI$cbSAMPI!ovebSHEI$cbSHEI$ebFEI$cbFEI$ebKHEI$cbKHEI$ebHORI$cbHORI",
      "$ebGANGIA$cbGANGIA$ebSHIMA$cbSHIMA$ebDEI$cbDEI!owqrir$ofir$u1opir$bYOT$eoxir$u1olir$kdu1olir",
      "$ebSHO$cbSHO$eu1opir%bSAN$cbSAN$ofaiqir$ekdu1opir%mqu1opir%kdmqu1opir!sdebIEako&IO&DJE&GJE",
      "&UKRAINIAN IE&DZE&BYELORUSSIAN-UKRAINIAN I&YI&JE&LJE&NJE&TSHE&KJE&Iako&lpU&DZHE&A&BE&VE&GHE",
      "&DE&IE&ZHE&ZE&I&lpI&KA&EL&EM&EN&O&PE&ER&ES&TE&U&EF&HA&TSE&pb&kj&SHCHA&HARDf&YERU&sof&E&YU&YA",
      "$cbA&BE&VE&GHE&DE&IE&ZHE&ZE&I&lpI&KA&EL&EM&EN&O&PE&ER&ES&TE&U&EF&HA&TSE&pb&kj&SHCHA&HARDf",
      "&YERU&sof&E&YU&YA&IEako&IO&DJE&GJE&UKRAINIAN IE&DZE&BYELORUSSIAN-UKRAINIAN I&YI&JE&LJE&NJE",
      "&TSHE&KJE&Iako&lpU&DZHE$ebms$cbms$ebYAT$cbYAT$ebraE$cbraE$eblan3$cblan3$ebralan3$cbralan3",
      "$ebBIGn3$cbBIGn3$ebraBIGn3$cbraBIGn3$ebKSI$cbKSI$ebPSI$cbPSI$ebFITA$cbFITA$ebys$cbys",
      "$ebysaihkomn$cbysaihkomn$ebUK$cbUK$ebtvms$cbtvms$ebmsaTITLO$cbmsaTITLO$ebOT$cbOT$ebKOPPA",
      "$cbKOPPA$wdf!mmsdTITLO%PALATALIZATION%kcPNEUMATA%kePNEUMATA%POKRYTIE%i7wdf%xsf!sdeblpIale",
      "$cblpIale$ebSEMISOFTf$cbSEMISOFTf$ebERaTICK$cbERaTICK$ebGHEaUPTURN$cbGHEaUPTURN$ebGHEaiq",
      "$cbGHEaiq$ebGHEaiwip$cbGHEaiwip$ebZHEami$cbZHEami$ebZEami$cbZEami$ebKAami$cbKAami$ebKAaixiq",
      "$cbKAaixiq$ebKAaiq$cbKAaiq$ebBASHKIR KA$cbBASHKIR KA$ebENami$cbENami$em8EN GHE$cm8EN GHE",
      "$ebPEaiwip$cbPEaiwip$ebweHA$cbweHA$ebESami$cbESami$ebTEami$cbTEami$ebo3U$cbo3U$ebo3Uaiq",
      "$cbo3Uaiq$ebHAami$cbHAami$em8TE TSE$cm8TE TSE$ebpbami$cbpbami$ebpbaixiq$cbpbaixiq$ebSHHA",
      "$cbSHHA$ebwepb$cbwepb$ebwepbami$cbwepbami$bPALOCHKA$ebZHEalc$cbZHEalc$ebKAaip$cbKAaip",
      "$ebELale$cbELale$ebENaip$cbENaip$ebENale$cbENale$ebKHAKASSIANpb$cbKHAKASSIANpb$ebEMale",
      "$cbEMale&PALOCHKA$ebAalc$cbAalc$ebAakf$cbAakf$em8A IE$cm8A IE$ebIEalc$cbIEalc$ebu7$cbu7",
      "$ebu7akf$cbu7akf$ebZHEakf$cbZHEakf$ebZEakf$cbZEakf$ebweDZE$cbweDZE$ebIakv$cbIakv$ebIakf",
      "$cbIakf$ebOakf$cbOakf$ebuzO$cbuzO$ebuzOakf$cbuzOakf$ebEakf$cbEakf$ebUakv$cbUakv$ebUakf",
      "$cbUakf$ebUaihjx$cbUaihjx$ebpbakf$cbpbakf$ebGHEami$cbGHEami$ebYERUakf$cbYERUakf$ebGHEaiqgip",
      "$cbGHEaiqgip$ebHAaip$cbHAaip$ebHAaiq$cbHAaiq$ebrlDE$cbrlDE$ebrlDJE$cbrlDJE$ebrlZJE$cbrlZJE",
      "$ebrlDZJE$cbrlDZJE$ebrlLJE$cbrlLJE$ebrlNJE$cbrlNJE$ebrlSJE$cbrlSJE$ebrlTJE$cbrlTJE$ebkdZE",
      "$cbkdZE$ebELaip$cbELaip$ebLHA$cbLHA$ebRHA$cbRHA$ebYAE$cbYAE$ebQA$cbQA$ebWE$cbWE$ebALEUT KA",
      "$cbALEUT KA$ebELaiwip$cbELaiwip$ebENaiwip$cbENaiwip$ebPEami$cbPEami$ebSHHAami$cbSHHAami",
      "$ebENaicip$cbENaicip$ebDZZHE$cbDZZHE$ebDCHE$cbDCHE$ebELami$cbELami!!ARMENIANebAYB&BEN&GIM&DA",
      "&ECH&ZA&EH&ET&TO&ZHE&INI&LIWN&XEH&CA&KEN&HO&JA&GHAD&CHEH&MEN&YI&NOW&kj&VO&kp&PEH&JHEH&RA&SEH",
      "&VEW&TIWN&nn&CO&YIWN&PIWR&KEH&OH&pi!!!ARMENIANnpbici6jq$vf$EMPHASISij$okij$k2$nxij$qkij",
      "$cbj7AYB&AYB&BEN&GIM&DA&ECH&ZA&EH&ET&TO&ZHE&INI&LIWN&XEH&CA&KEN&HO&JA&GHAD&CHEH&MEN&YI&NOW",
      "&kj&VO&kp&PEH&JHEH&RA&SEH&VEW&TIWN&nn&CO&YIWN&PIWR&KEH&OH&pi%m8ECH YIWN%bYIaiq$lqki$tn!!",
      "!zqARMENIAN ETERNITYf!zvARMENIAN ETERNITYf!ARMENIAN DRAMf!!HEBREWmnETNAHTA%SEGOL%SHALSHELET",
      "%ZAQEF QATAN&GADOL%TIPEHA%REVIA%ZARQA%PASHTA%YETIV%TEVIR%GERESH&MUQDAM%GERSHAYIM%QARNEY PARA",
      "%TELISHA GEDOLA%PAZER%ATNAH HAFUKH%MUNAH%MAHAPAKH%MERKHA&KEFULA%DARGA%QADMA%TELISHA QETANA",
      "%YERAH BEN YOMO%OLE%ILUY%DEHI%ZINOR$ijMASORAjd$s6SHEVA%HATAF SEGOL&PATAH&QAMATS%HIRIQ%TSERE",
      "%SEGOL%PATAH%QAMATS%HOLAM&HASERmtVAV%QUBUTS%pgOR MAPIQ%METEG$l8MAQAF$s6RAFE$l8PASEQ$s6nrii",
      "%SINii$l8SOF PASUQ$ijj3ii%jtii$l8lwHAFUKHA$s6QAMATS QATAN!!!!!!!!!HEBREWbjj%BET%ri%DALET%HE",
      "%VAV%sl%HET%TET%YOD%ifnu%nu%LAMED%ifMEM%MEM%iflw%lw%re%t2%ifPE%PE%ifTSADI%TSADI%QOF%tc%nr",
      "%TAV!!!!!HEBREW YODjs$m8YIDDISHihVAV&VAV YOD&ihYOD$l8GERESH%GERSHAYIM!!!!!!!!!!!!qdkxf",
      "$fSANAH$FOOTNOTExc$fSAFHA%SAMVAT$kxijib!unCUBE ROOT$FOURTH ROOT!qdRAY!unPER MILLEf%kajhf",
      "!AFGHANIf!qdk2$DATEo2$POETIC VERSEf$fMISRA%SALLALLAHOU ALAYHE WASSALLAM%ALAYHE ASSALLAM",
      "%RAHMATULLAH ALAYHE%RADI ALLAHOU ANHU%TAKHALLUS$ckgoc&m8jjamwajf&r5%tw%u8%s7$th$bij",
      "$ntOF TEXTij$lziil8ij$nxij$bKASHMIRIjf%my%jjavyib*myib%muamyib%jjamyie%jfamyib%jj%p4",
      "%p5MARBUTA%p5%t3%j8%jz%lh%DAL%THAL%nn%r5%oe%qg%pj%DAD%oc%ZAH%nc%q4%KEHEHaidjeib*ikjeie",
      "%FARSIjfaksV+idjeib+ikjeib$TATWEEL$bpi%os%nu%mw%i1%mo%n4%mu%jjku%jf$yg$DAMMATAN$KASRATAN$tw",
      "$u8$s7$SHADDA$SUKUN$MADDAHib$myib%ie$xojj$ksu8$ijmoGHUNNA$ZWARAKAY$jkfcVib&kscVib&iiie$kdu8",
      "$twaidje$WAVYmyie!unjpj1%ig%id%ik%io%is%iy%i5%iz%i9!qdPERCENTf$DECIMALo2$wdo2$ism0k9$bsfp4",
      "&os%srjj%jjWASLA&aWAVYmyib,ie%kgmy*jj*mu%Uamyib%kgmyjf%TTEH%TTEHEH%BEEH%p5ajq*ikjeibjr%PEH",
      "%TEHEH%BEHEH%jzamyib*idjeixib%NYEH%DYEH%jzaikjeib%TCHEH%TCHEHEH%DDAL%DALajq*iiie,gcoc%DAHAL",
      "%DDAHAL%DUL%DALaikjeibjr*iojeib%RREH%nnacV*jq*iiie*cVie*iiiegiiib*idjeib%JEH%nnaiojeib",
      "%oeaiiiegiiib*ikjeie:gikjeib%pjaidjeie*ikjeib%ocaikjeib%ncaikjeib%sfpi%piaiiMOVEDie+ie%VEH",
      "%piaikjeie%PEHEH%osaiiib*ikjeib%KEHEH%SWASHnu%nuajq*iiib%NG%nuaikjeie%GAF&ajq%NGOEH",
      "%GAFaidjeie%GUEH%GAFaikjeib%mwacV*iiib*ikjeib,ie%moaiiie&GHUNNA%RNOON%moajq*ikjeib",
      "%n4DOACHASHMEE%TCHEHaiiib%n4ajfib&GOAL*amyib%p5MARBUTA GOAL%muajq%KIRGHIZ OE%OE%U%YU",
      "%KIRGHIZ YU%muaidjeib%VE%FARSIjf%jfale*cV%muaiiib%E%jfaikjeie&BARREE*amyib$lqki$bAE",
      "$ckgm8pjamwajjku*osamwajjku&i1itd&mwjj&j8&ikje&oe$ntOF AYAH$START OF RUB EL HIZB$ckgutj1",
      "&UPRIGHT RECTANGULARj1&sfqiOFlh&i1imd%jvoe%kgvy%mu%jf%kgjf&mo$PLACE OF SAJDAH$EMPTYlbjvki",
      "&kgki$utkgkiaFILLEDlb$cjvi1$bDALaksV%nnaksV!wounjpj1&ig&id&ik&io&is&iy&i5&iz&i9!qdbqgaiiie",
      "%DADaiiie%q4aiiie$fSINDHIwb&POSTPOSITION MEN$bn4aksV!SYRIACntOFze$SUPRALINEARlqki",
      "$SUBLINEARlqki$SUPRALINEARnj$SUBLINEARnj$jnnj$njSKEWEDic&ia$SUPRALINEARnjSKEWEDic",
      "$SUBLINEARnjSKEWEDia$CONTRACTION$HARKLEAN OBELUS%METOBELUS%ASTERISCUS!!SYRIACqkij$bALAPH",
      "%srALAPH%q9%GAMAL&GARSHUNI%DALATH%sfDALATH RISH%HE%mu%r5%r6%TETH&GARSHUNI%YUDH&HE%rm%LAMADH",
      "%MIM%lw%SEMKATH%ifSEMKATH%E%PE%kdPE%r3%QAPH%RISH%nr%TAW%PERSIAN BHETH&GHAMAL&DHALATH",
      "$PTHAHAib%ie%mq$ZQAPHAib%ie%mq$RBASAib%ie$mqZLAMAjn&ANGULAR$HBASAib%ie$HBASA-ESASAmq$ESASAib",
      "%ie$RWAHA$FEMININEii$QUSHSHAYA$RUKKAKHA$idixjeib*ie$ikjeib&ie$rwkqib&ie$MUSIC$BARREKH!!",
      "!SYRIACbSOGDIAN ZHAIN&KHAPH&FE!qdbp4aikjeHORIZONTALLYie*iiiegikjeib*ikjektjwie<gidjeib",
      "*idjeiegiiib*kscVie*cV%jzaidjeib*ikjektjwie%DALaidjexmiegcoc*kscVie%nnaiq%oeaiojeib",
      "%ncaidjeib*ikjektjrib*idjexmib%piaidjeie*ikjektjwie%KEHEHaiiib*ikjeib,ktjwie%i1aiiib+ie",
      "%moaidjeie*coc+V%mwai2%nnaidjexmib*myib%oeaidjexmib%jzacqdbocie;gidje%oeacqdbocgidje",
      "%nnacqdbocgidje%jzacqdbocib%jjawounjpidib:ikib%FARSIjfawounjpidib;ikib;ioie%muawounjpidib",
      ":ikib%jfBARREEawounjpidib;ikib%jzawounjpioie%oeawounjpioib*ksV%nuaidjeib!THAANAbHAA",
      "%SHAVIYANI%NOONU%RAA%BAA%LHAVIYANI%KAAFU%ALIFU%VAAVU%MEEMU%FAAFU%DHAALU%THAA%LAAMU%GAAFU",
      "%GNAVIYANI%SEENU%DAVIYANI%ZAVIYANI%TAVIYANI%YAA%PAVIYANI%JAVIYANI%CHAVIYANI%TTAA%HHAA%KHAA",
      "%THAALU%ZAA%SHEENU%SAADHU%DAADHU%TO%ZO%AINU%GHAINU%QAAFU%WAAVU$ABAFILI$AABAAFILI$IBIFILI",
      "$EEBEEFILI$UBUFILI$OOBOOFILI$EBEFILI$EYBEYFILI$OBOFILI$OABOAFILI$SUKUN$bNAA!!!!!!!!!!!!!!",
      "!NKOjpj1%ig%id%ik%io%is%iy%i5%iz%i9$bA%EE%I%E%U%OO%O%DAGBASINNA%N%BA%PA%TA%JA%kp%DA%RA%p6%SA",
      "%GBA%FA%KA%LA%NA WOLOSO%MA%kr%NA%HA%WA%YA%krWOLOSO%JONA JA&kp&RA$mmlpkgj5&jvj5&s3j5",
      "%j9DESCENDINGj5&kgj5&jvj5&s3j5%NASALIZATIONij%ihiiib$kgj5vf$jvj5vf$irOO DENNEN%GBAKURUNEN$k2",
      "$okij$LAJANYALAN!!!NKO DANTAYALAN$DOROMEf$TAMANf!SAMARITANbALAF%BIT%GAMAN%DALAT%IY%BAA%ZEN",
      "%IT%TIT%YUT%KAAF%LABAT%MIM%lw%SINGAAT%IN%FI%TSAADIY%QUF%RISH%SHAN%TAAF$ijIN%IN-ALAF",
      "%OCCLUSION%pg$npbEPENTHETIC YUT$ijEPENTHETIC YUT$jkfj9E&E&OVERLONG AA&j9AA&AA&OVERLONG A&j9A",
      "&A$npblpA$jkflpA&j9U&U$npbI$jkfj9I&I&O&SUKUN$ijNEQUDAA!!!SAMARITANl8NEQUDAA%AFSAAQ%ANGED%BAU",
      "%ATMAAU%SHIYYAALAA$qkij$l8MELODIC QITSA%ZIQAA%QITSA%ZAEF%TURU%ARKAANU%SOF MASHFAAT%ANNAAU!",
      "!MANDAICbHALQA%AB%AG%AD%AH%USHENNA%AZ%IT%ATT%AKSA%AK%AL%AM%AN%AS%IN%AP%ASZ%AQ%AR%l3%AT",
      "%DUSHENNA%KAD%nc$AFFRICATIONij$VOCALIZATIONij$zbij!!!MANDAICl8!!SYRIACbMALAYALAMkh&JA&kr&ls",
      "&l4&NNNA&l7&RA&og&LLLA&ml!!!!!!qdbjjayhtw+mdiatw*iaiwiq*iciwiq*yhs7+ndias7+tviiib+iatvii",
      "+ictvii+tviiie*iiib*yhmdiatwgiiib*iaiwiqgiiib*yhndias7giiib+mdiatwgicjq*iaiwiqgicjq",
      "*yhndias7gicjq+iamy+icmy$TATWEELaOVERSTRUCKmy*mu&idjeie$bTHINjf$BASELINEtvii$omtvii$bmoakscV",
      "%jzakscVie%ocaiiie*ikjeie%KEHEHaidjexmie$ixle!!qdPOUNDijib$PIASTREijib!!!!!!!qdckgr7AL-JUZ",
      "%jvr7ISHMAAM*IMAALA*TASHEEL$vyWAAJIB$srjjMOKHASSAS$DOUBLEDvy$i6vyjgvy$bp4acVie*myib",
      "%j8aidjeib%ocaidjeib%piaiiiegikjeib%osaiiie%mwaihi2%i1aikjeib%jfaidjeiegmyib;iiib%nnaqu",
      "%muaiiWITHIN%ROHINGYAjf%jvjj%DALaikjeie%pjaikjeie%GAFaksiq%o3mu%r5aksVib%ncaikjeie%nuaiiie",
      "%osaiiiegNOjeib%p4aci1ib%PEHaci1ib%p5acp5ib%nnacmoib%jfaidjeiegcmoib%AFRICANpi&os&mo%PEHacV",
      "%p5acV%TTEHacV%TCHEHacV%KEHEHacV%q4aikjeib%AFRICANosaikjeib%j8aikjeib,ie%mwacqdbocib%GRAF",
      "$cFARSIjf%kgFARSIjf&jfBARREEaidjeie&r7SAH&ZAH$kmtviiib*ie$SUKUNie$kmjdie%tviiqejdie$cjvmu",
      "%kgr7AR-RUB&pj&nc&os&moas7%jvmoas7%kgr7ATH-THALATHA*AS-SAJDA*AN-NISF*SAKTA*QIF*WAQFA",
      "&FOOTNOTExc&fSAFHA$DISPUTEDntOF AYAH$j7u8ie$ootw%u8%s7%yg%DAMMATAN%KASRATAN$j5igiiib%idjeib",
      "%quib%igiiie%idjeie%quie$j6yg%DAMMATAN%KASRATAN$ckgmu$twajq&iiib$s7aiiie$ickkib$iakkib",
      "$ickkie$iakkie$ihiakkib+aii$iakkibaii$u8aii$ijvjmoGHUNNA!DEVANAGARIfksng%ng%lr%mx$blpA%A%AA",
      "%I%II%U%UU%k7R&L%rzE%lpE%E%AI%rzO%lpO%O%AU%KA%kw%GA%lx%kh%CA%kp%JA%mz%kr%ls%mc%lt%mk%l4%TA",
      "%k3%DA%lv%NA%NNNA%PA%lf%BA%l7%MA%YA%RA%p6%LA%og%LLLA%VA%kj%ml%SA%HA$jkfOE&OOE$foy%rb$jkfAA&I",
      "&II&U&UU&k7R*RR&rzE&lpE&E&AI&rzO&lpO&O&AU$fme$jkfPRISHTHAMATRA E&AW$OM$STRESSfUDATTA",
      "&ANUDATTA$komn$jxmn$jkfrzj9E&UE&UUE$bQA%KHHA%GHHA%ZA%DDDHA%RHA%FA%YYA%k7RR&LL$jkfk7L*LL$nq",
      "$ihnq$jpj1%ig%id%ik%io%is%iy%i5%iz%i9$qkf$fkgSPACINGii$brzA%OE%OOE%AW%UE%UUE%MARWARIlt%pv",
      "%ivYA%GGA%JJA%n7ki%DDDA%BBA!BENGALI ANJI$fng%lr%mx!!BENGALIbA%AA%I%II%U%UU%k7R&L!!!BENGALIbE",
      "%AI!!!BENGALIbO%AU%KA%kw%GA%lx%kh%CA%kp%JA%mz%kr%ls%mc%lt%mk%l4%TA%k3%DA%lv%NA!!BENGALIbPA",
      "%lf%BA%l7%MA%YA%RA!!BENGALIbLA!!!!BENGALIbkj%ml%SA%HA!!!BENGALIfoy%rb$jkfAA&I&II&U&UU&k7R*RR",
      "!!!BENGALIjkfE&AI!!!BENGALIjkfO&AU$fme$bKHANDA TA!!!!!!!!!BENGALI AUr0ij!!!!!BENGALIbp6%RHA!",
      "!BENGALIbYYA%k7RR&LL$jkfk7L*LL!!!BENGALIjpj1%ig%id%ik%io%is%iy%i5%iz%i9$bRAaiwl1*jtl1",
      "$RUPEEij%f$CURRENCY NUMERATORig&id&ik&io&igLESS THANmvDENOMINATOR%DENOMINATORuu$ISSHAR",
      "$GANDAij$bVEDIClr$qkf$SANDHIij!!!GURMUKHIfADAK BINDI%BINDI%mx!!GURMUKHIbA%AA%I%II%U%UU!!!!",
      "!GURMUKHIbEE%AI!!!GURMUKHIbOO%AU%KA%kw%GA%lx%kh%CA%kp%JA%mz%kr%ls%mc%lt%mk%l4%TA%k3%DA%lv%NA",
      "!!GURMUKHIbPA%lf%BA%l7%MA%YA%RA!!GURMUKHIbLA%og!!GURMUKHIbVA%kj!!GURMUKHIbSA%HA!!",
      "!GURMUKHIfoy!!GURMUKHIjkfAA&I&II&U&UU!!!!!GURMUKHIjkfEE&AI!!!GURMUKHIjkfOO&AU$fme!!!",
      "!GURMUKHIfUDAAT!!!!!!!!GURMUKHIbKHHA%GHHA%ZA%p6!!GURMUKHIbFA!!!!!!!!GURMUKHIjpj1%ig%id%ik%io",
      "%is%iy%i5%iz%i9$TIPPI$ADDAK$IRI$URA$EK ONKAR$fYAKASH$qkf!!!!!!!!!!!GUJARATIfng%lr%mx!",
      "!GUJARATIbA%AA%I%II%U%UU%k7R&L$jkrzE!!GUJARATIbE%AI$jkrzO!!GUJARATIbO%AU%KA%kw%GA%lx%kh%CA",
      "%kp%JA%mz%kr%ls%mc%lt%mk%l4%TA%k3%DA%lv%NA!!GUJARATIbPA%lf%BA%l7%MA%YA%RA!!GUJARATIbLA%og!",
      "!GUJARATIbVA%kj%ml%SA%HA!!!GUJARATIfoy%rb$jkfAA&I&II&U&UU&k7R*RR&rzE!!GUJARATIjkfE&AI&rzO!",
      "!GUJARATIjkfO&AU$fme!!!GUJARATI OM!!!!!!!!!!!!!!!!GUJARATIbk7RR&LL$jkfk7L*LL!!!GUJARATIjpj1",
      "%ig%id%ik%io%is%iy%i5%iz%i9$qkf$RUPEEf!!!!!!!!GUJARATIbpv$fSUKUN%SHADDA%MADDAH%THREE-DOToyib",
      "%jdoyib%TWO-CIRCLEoyib!!ORIYAfng%lr%mx!!ORIYAbA%AA%I%II%U%UU%k7R&L!!!ORIYAbE%AI!!!ORIYAbO%AU",
      "%KA%kw%GA%lx%kh%CA%kp%JA%mz%kr%ls%mc%lt%mk%l4%TA%k3%DA%lv%NA!!ORIYAbPA%lf%BA%l7%MA%YA%RA!",
      "!ORIYAbLA%og!!ORIYAbVA%kj%ml%SA%HA!!!ORIYAfoy%rb$jkfAA&I&II&U&UU&k7R*RR!!!ORIYAjkfE&AI!!",
      "!ORIYAjkfO&AU$fme!!!!!!!!ORIYAfwn$AIr0ij$AUr0ij!!!!!ORIYAbp6%RHA!!ORIYAbYYA%k7RR&LL$jkfk7L",
      "*LL!!!ORIYAjpj1%ig%id%ik%io%is%iy%i5%iz%i9$ISSHAR$bWA$p9igm9&i6%ikrt%igyc&od%ikSIXTEENTHS!!!",
      "!!!!!!!!TAMILflr%mx!!TAMILbA%AA%I%II%U%UU!!!!TAMILbE%EE%AI!!TAMILbO%OO%AU%KA!!!!TAMILbkh%CA!",
      "!TAMILbJA!!TAMILbkr%ls!!!!TAMILbl4%TA!!!!TAMILbNA%NNNA%PA!!!!TAMILbMA%YA%RA%p6%LA%og%LLLA%VA",
      "%kj%ml%SA%HA!!!!!TAMILjkfAA&I&II&U&UU!!!!TAMILjkfE&EE&AI!!TAMILjkfO&OO&AU$fme!!!TAMIL OM!!!!",
      "!!!TAMIL AUr0ij!!!!!!!!!!!!!!!TAMILjpj1%ig%id%ik%io%is%iy%i5%iz%i9$kxka%igi7&jh$DAYf$MONTHf",
      "$YEARf$DEBITf$CREDITf$ASibf$RUPEEf$kxf!!!!!!TELUGUfmmngib%ng%lr%mx%mmlrib$bA%AA%I%II%U%UU",
      "%k7R&L!!TELUGUbE%EE%AI!!TELUGUbO%OO%AU%KA%kw%GA%lx%kh%CA%kp%JA%mz%kr%ls%mc%lt%mk%l4%TA%k3%DA",
      "%lv%NA!!TELUGUbPA%lf%BA%l7%MA%YA%RA%p6%LA%og%LLLA%VA%kj%ml%SA%HA!!!TELUGUfoy%rb$jkfAA&I&II&U",
      "&UU&k7R*RR!!TELUGUjkfE&EE&AI!!TELUGUjkfO&OO&AU$fme!!!!!!!!TELUGUr0ij$AIr0ij!!TELUGUbnv%DZA",
      "%RRRA!!!TELUGUbNAKAARA POLLU!!!TELUGUbk7RR&LL$jkfk7L*LL!!!TELUGUjpj1%ig%id%ik%io%is%iy%i5%iz",
      "%i9!!!!!!!!TELUGUfxz$p9jpj1mtODD POWERS OFio&igmtODD POWERS OFio&idmtODD POWERS OFio",
      "&ikmtODD POWERS OFio&igmtEVEN POWERS OFio&idmtEVEN POWERS OFio&ikmtEVEN POWERS OFio$fTUUMU",
      "!KANNADAfSPACINGng%ng%lr%mx%xz$bA%AA%I%II%U%UU%k7R&L!!KANNADAbE%EE%AI!!KANNADAbO%OO%AU%KA%kw",
      "%GA%lx%kh%CA%kp%JA%mz%kr%ls%mc%lt%mk%l4%TA%k3%DA%lv%NA!!KANNADAbPA%lf%BA%l7%MA%YA%RA%p6%LA",
      "%og!!KANNADAbVA%kj%ml%SA%HA!!!KANNADAfoy%rb$jkfAA&I&II&U&UU&k7R*RR!!KANNADAjkfE&EE&AI!",
      "!KANNADAjkfO&OO&AU$fme!!!!!!!!KANNADAr0ij$AIr0ij!!!!!!!KANNADAbNAKAARA POLLU%FA!",
      "!KANNADAbk7RR&LL$jkfk7L*LL!!!KANNADAjpj1%ig%id%ik%io%is%iy%i5%iz%i9!!KANNADAfx7%x8!!!!!!!!!!",
      "!!!!MALAYALAMfmmlrib%ng%lr%mx$bVEDIClr%A%AA%I%II%U%UU%k7R&L!!MALAYALAMbE%EE%AI!!MALAYALAMbO",
      "%OO%AU%KA%kw%GA%lx%kh%CA%kp%JA%mz%kr%ls%mc%lt%mk%l4%TA%k3%DA%lv%NA%NNNA%PA%lf%BA%l7%MA%YA%RA",
      "%p6%LA%og%LLLA%VA%kj%ml%SA%HA%TTTA$fixi2me%CIRCULARme%rb$jkfAA&I&II&U&UU&k7R*RR!",
      "!MALAYALAMjkfE&EE&AI!!MALAYALAMjkfO&OO&AU$fme$biiREPH$fPARA!!!!!MALAYALAMbCHILLU M&Y&LLL",
      "$AUr0ij$p9igONE-HUNDRED-AND-SIXTIETH&FORTIETH%ikEIGHTIETHS%igTWENTIETH&TENTH%ikTWENTIETHS",
      "%igFIFTH$bqcII%k7RR&LL$jkfk7L*LL!!!MALAYALAMjpj1%ig%id%ik%io%is%iy%i5%iz%i9$kxka%igi7&jh",
      "$p9igm9&i6%ikrt%igyc&od%ikSIXTEENTHS$DATEij$bCHILLU NN&N&RR&L&LL&K!!SINHALAfng%ANUSVARAYA",
      "%VISARGAYA!!SINHALAbAYANNA%AAYANNA%AEYANNA%AEEYANNA%IYANNA%IIYANNA%UYANNA%UUYANNA%IRUYANNA",
      "%IRUUYANNA%ILUYANNA%ILUUYANNA%EYANNA%EEYANNA%AIYANNA%OYANNA%OOYANNA%AUYANNA!!!",
      "!SINHALAbupKAYANNA%uoKAYANNA%upGAYANNA%uoGAYANNA%KANTAJA NAASIKYAYA%SANYAKA GAYANNA",
      "%upCAYANNA%uoCAYANNA%upJAYANNA%uoJAYANNA%TAALUJA NAASIKYAYA&SANYOOGA NAAKSIKYAYA",
      "%SANYAKA JAYANNA%upTTAYANNA%uoTTAYANNA%upDDAYANNA%uoDDAYANNA%MUURDHAJA NAYANNA",
      "%SANYAKA DDAYANNA%upTAYANNA%uoTAYANNA%upDAYANNA%uoDAYANNA%DANTAJA NAYANNA!",
      "!SINHALAbSANYAKA DAYANNA%upPAYANNA%uoPAYANNA%upBAYANNA%uoBAYANNA%MAYANNA%AMBA BAYANNA",
      "%YAYANNA%RAYANNA!!SINHALAbDANTAJA LAYANNA!!!SINHALAbVAYANNA%TAALUJA SAYANNA",
      "%MUURDHAJA SAYANNA%DANTAJA SAYANNA%HAYANNA%MUURDHAJA LAYANNA%FAYANNA!!!!SINHALAfAL-LAKUNA!!!",
      "!!SINHALAjkfAELA-PILLA&KETTI AEDA-PILLA&DIGA AEDA-PILLA&KETTI IS-PILLA&DIGA IS-PILLA",
      "&KETTI PAA-PILLA!!SINHALAjkfDIGA PAA-PILLA!!SINHALAjkfGAETTA-PILLA&KOMBUVA&DIGA KOMBUVA",
      "&KOMBU DEKA&KOMBUVA HAA AELA-PILLA+DIGA AELA-PILLA+GAYANUKITTA&GAYANUKITTA!!!!!!",
      "!SINHALA LITHjpj1&ig&id&ik&io&is&iy&i5&iz&i9!!!SINHALAjkfDIGA GAETTA-PILLA*GAYANUKITTA",
      "$l8KUNDDALIYA!!!!!!!!!!!!!THAIvhKO KAI%KHO KHAI&KHUAT&KHWAI&KHON&RAKHANG%NGO NGU%CHO CHAN",
      "&CHING&CHANG%SO SO%CHO CHOE%YO YING%DO CHADA%TO PATAK%THO THAN&NANGMONTHO&PHUTHAO%NO NEN",
      "%DO DEK%TO TAO%THO THUNG&THAHAN&THONG%NO NU%BO BAIMAI%PO PLA%PHO PHUNG%FO FA%PHO PHAN%FO FAN",
      "%PHO SAMPHAO%MO MA%YO YAK%RO RUA%RU%LO LING%LU%WO WAEN%SO SALA&RUSI&SUA%HO HIP%LO CHULA",
      "%O ANG%HO NOKHUK%PAIYANNOI%SARA A%MAI HAN-AKAT%SARA AA&AM&I&II&UE&UEE&U&UU%PHINTHU!!!!",
      "!THAI CURRENCYirBAHT$vhSARA E&AE&O&AI MAIMUAN*MAIMALAI%LAKKHANGYAO%MAIYAMOK%MAITAIKHU%MAI EK",
      "&THO&TRI&CHATTAWA%THANTHAKHAT%NIKHAHIT%YAMAKKAN%FONGMAN$jpj1%ig%id%ik%io%is%iy%i5%iz%i9",
      "$vhANGKHANKHU%KHOMUT"]⟩,
    ⟨0xE81, [
      "!LAObKO%KHO SUNG!!LAObKHO TAM!!LAObPALIlx%NGO%CO%PALIkp%SO TAM!!LAObPALImz%NYO%PALIkr&ls&mc",
      "&lt&mk&l4%DO%TO%THO SUNG&TAM%PALIlv%NO%BO%PO%PHO SUNG%FO TAM%PHO TAM%FO SUNG%PALIl7%MO%YO",
      "%LO LING!!LAObLO LOOT!!LAObWO%SANSKRITkj&ml%SO SUNG%HO SUNG%PALIog%O%HO TAM$wp$jkfA&MAI KAN",
      "&AA&AM&I&II&Y&YY&U&UU$fPALIme$jkfMAI KON$SEMIVOWELfLO&NYO!!!LAOjkfE&EI&O&AY&AI!!LAO KO LA!",
      "!LAOj5MAI EK&THO&TI&CATAWA$zrij$NIGGAHITA!!!LAOjpj1%ig%id%ik%io%is%iy%i5%iz%i9!!!LAO HO NO",
      "%MO$bKHMU GO&NYO"]⟩,
    ⟨0xF00, [
      "!TIBETANrcOM$ijGTER YIG MGO TRUNCATED A+-UM RNAM BCAD MA,GTERulMA%itYIG MGO MDUN MA",
      "%CLOSING YIG MGO SGAB MA%u9YIG MGO PHURrnMA%YIG MGOulrnMA%SBRULrn%BSKUR YIG MGO",
      "%BKA- SHOG YIG MGO%INTERSYLLABICul%DELIMITERulBSTAR%rn%NYISrn%ulrn%NYISulrn",
      "%RIN CHEN SPUNGSrn%RGYA GRAMrn%u9-DZUDtxMEj9CAN%GTERul$LOGOTYPEfCHADtx&LHAGtx",
      "$ASTROLOGICALfSGRA GCAN -CHARtx&-KHYUD PA&SDONG TSHUGS$fRDEL DKAR GCIG*GNYIS*GSUM&NAG GCIG",
      "*GNYIS&DKAR RDEL NAG$jpj1%ig%id%ik%io%is%iy%i5%iz%i9%i6ig&id&ik&io&is&iy&i5&iz&i9&j1",
      "$ijBSDUStx%NGAS BZUNG NYI ZLA%u9-DZUDtxBZHI MIG CAN%NGAS BZUNG SGORtx%pbMGO%nv-PHRU",
      "%GUGtxGYON*GYAS%ANG KHANG GYON*GYAS$fYAR TSHES%MAR TSHES$bKA%kw%GA%lx%kh%CA%kp%JA!",
      "!TIBETANbkr%ls%mc%lt%mk%l4%TA%k3%DA%lv%NA%PA%lf%BA%l7%MA%nv%r8%DZA%DZHA%WA%pv%ZA%-A%YA%RA%LA",
      "%kj%ml%SA%HA%A%KSSA%FIXED-FORM RA%KKA%p6!!!!!TIBETANjkfAA&I&II&U&UU&k7R*RR*L*LL&E&EE&O&OO",
      "$fRJES SUkhRO%RNAM BCAD$jkfkdI*II$fNYI ZLA NAA DA%SNA LDAN$ijHALANTA%PALUTA$fLCItx%t1tx",
      "%LCEnvCAN%MCHU CAN%GRU CAN RGYINGS&MED RGYINGS%ksMCHU CAN$ydfLCEnvCAN&MCHU CAN&ksMCHU CAN",
      "%bKA&kw&GA&lx&kh&CA&kp&JA!!TIBETANydbkr&ls&mc&lt&mk&l4&TA&k3&DA&lv&NA&PA&lf&BA&l7&MA&nv&r8",
      "&DZA&DZHA&WA&pv&ZA&-A&YA&RA&LA&kj&ml&SA&HA&A&KSSA&FIXED-FORM WA*YA*RA!!TIBETAN KU RUkw",
      "*BZHI MIG CAN$CANTILLATIONfivBEAT&jlBEAT&CANG TE-U&SBUB -CHAL$irDRIL BU%RDO RJE%PADMA GDAN",
      "%RDO RJE RGYA GRAM%PHUR PA%NOR BU*NYIS -KHYIL*GSUM -KHYIL*BZHI -KHYIL!",
      "!TIBETANfRDEL NAG RDEL DKAR*GSUM$ijBSKA- SHOG GI MGO RGYAN%MNYAM YIG GI MGO RGYAN%NYISul",
      "%itBRDA RNYING YIG MGO MDUN MA%CLOSING BRDA RNYING YIG MGO SGAB MA!zqSVASTIf!zvSVASTIf",
      "!zqSVASTIfaje!zvSVASTIfaje!TIBETANijLEADING MCHANtx%TRAILING MCHANtx"]⟩,
    ⟨0x1000, [
      "!MYANMARbKA%kw%GA%lx%kh%CA%kp%JA%mz%kr%NNYA%ls%mc%lt%mk%l4%TA%k3%DA%lv%NA%PA%lf%BA%l7%MA%YA",
      "%RA%LA%WA%SA%HA%og%A%SHAN A%I%II%U%UU%E%MON E%O%AU$jkfTALL AA&AA&I&II&U&UU&E&AI&MON II*O&Eib",
      "$flr%iiie%mx%me%ASAT$pdfj0YA*RA*WA*HA$bGREAT SA$jpj1%ig%id%ik%io%is%iy%i5%iz%i9$flao6%o6",
      "$irLOCATIVE%COMPLETED%AFOREMENTIONED%GENITIVE$bkj%ml%k7R&RR&L&LL$jkfk7R*RR*L*LL$bMONkh&mz",
      "&BBA&BBE$pdfMONj0NA+MA+LA$bSGAWvzkj$jkfSGAWvzEU$j5ijSGAWvzHATHI+KE PHO$bWESTERN PWOvzk3+PWA",
      "$jkfWESTERN PWOvzEU,UE$fWESTERN PWOvzTONE-1+u2+vr+TONE-4+u3$bEASTERN PWOvzl4+YWA+GHWA",
      "$jkfGEBAvzI&KAYAH OE*U*EE$bSHAN KA&kw&GA&CA&ZA&kr&DA&NA&lf&FA&BA&k3&HA$pdfSHANj0WA",
      "$jkfSHAN AA*E+ib*ifY$fSHANu2&vr&u3&TONE-6&COUNCILu2*vr*EMPHATICj5$bRUMAI PALAUNG FA",
      "$fRUMAI PALAUNGu3$SHANjpj1&ig&id&ik&io&is&iy&i5&iz&i9$fKHAMTI TONE-1&vr$jkfAITON A*AI",
      "$irSHANig&ok!GEORGIANebAN&BAN&GAN&DON&EN&VIN&ZEN&TAN&IN&KAN&LAS&p0&NAR&ON&PAR&ZHAR&RAE&SAN",
      "&TAR&UN&PHAR&KHAR&GHAN&QAR&nr&CHIN&CAN&JIL&CIL&CHAR&XAN&JHAN&HAE&HE&HIE&WE&HAR&HOE!",
      "!GEORGIANebYN!!!!!!GEORGIANebAEN!!!GEORGIANbAN%BAN%GAN%DON%EN%VIN%ZEN%TAN%IN%KAN%LAS%p0%NAR",
      "%ON%PAR%ZHAR%RAE%SAN%TAR%UN%PHAR%KHAR%GHAN%QAR%nr%CHIN%CAN%JIL%CIL%CHAR%XAN%JHAN%HAE%HE%HIE",
      "%WE%HAR%HOE%FI%YN%ELIFI%j7GAN%nc$zeo2!npbGEORGIAN NAR!GEORGIANbAEN%HARDf%LABIALf",
      "!vsCHOSEONGxd%zw%NIEUN%xe%zx%RIEUL%MIEUM%PIEUP%SSANGPIEUP%SIOS%SSANGSIOS%v0%v1%SSANGCIEUC%w4",
      "%w5%w6%w7%HIEUH%NIEUN-KIYEOK%SSANGNIEUN%NIEUN-TIKEUT%NIEUN-PIEUP%TIKEUT-KIYEOK%RIEUL-NIEUN",
      "%SSANGRIEUL%zy%KAPYEOUNRIEUL%MIEUM-PIEUP%KAPYEOUNMIEUM%PIEUP-KIYEOK%PIEUP-NIEUN%PIEUP-TIKEUT",
      "%PIEUP-SIOS%PIEUP-SIOS-KIYEOK%z8%PIEUP-SIOS-PIEUP%PIEUP-SSANGSIOS%PIEUP-SIOS-CIEUC",
      "%PIEUP-CIEUC%PIEUP-CHIEUCH%PIEUP-THIEUTH%PIEUP-PHIEUPH%KAPYEOUNPIEUP%KAPYEOUNSSANGPIEUP",
      "%SIOS-KIYEOK%SIOS-NIEUN%SIOS-TIKEUT%SIOS-RIEUL%SIOS-MIEUM%SIOS-PIEUP%SIOS-PIEUP-KIYEOK",
      "%SIOS-SSANGSIOS%SIOS-IEUNG%SIOS-CIEUC%SIOS-CHIEUCH%SIOS-KHIEUKH%SIOS-THIEUTH%SIOS-PHIEUPH",
      "%SIOS-HIEUH%CHITUEUMSIOS%CHITUEUMSSANGSIOS%CEONGCHIEUMSIOS%CEONGCHIEUMSSANGSIOS%PANSIOS",
      "%IEUNG-KIYEOK%IEUNG-TIKEUT%IEUNG-MIEUM%IEUNG-PIEUP%IEUNG-SIOS%IEUNG-PANSIOS%SSANGIEUNG",
      "%IEUNG-CIEUC%IEUNG-CHIEUCH%IEUNG-THIEUTH%IEUNG-PHIEUPH%YESIEUNG%CIEUC-IEUNG%CHITUEUMCIEUC",
      "%CHITUEUMSSANGCIEUC%CEONGCHIEUMCIEUC%CEONGCHIEUMSSANGCIEUC%CHIEUCH-KHIEUKH%CHIEUCH-HIEUH",
      "%CHITUEUMCHIEUCH%CEONGCHIEUMCHIEUCH%PHIEUPH-PIEUP%KAPYEOUNPHIEUPH%SSANGHIEUH%YEORINHIEUH",
      "%KIYEOK-TIKEUT%NIEUN-SIOS%zz%z0%TIKEUT-RIEUL%vt$JUNGSEONGvt%A%AE%YA%YAE%EO%E%YEO%YE%O%WA%WAE",
      "%OE%YO%U%WEO%WE%WI%YU%EU%YI%I%A-O%A-U%YA-O%YA-YO%EO-O%EO-U%EO-EU%YEO-O%YEO-U%O-EO%O-E%O-YE",
      "%O-O%O-U%YO-YA%YO-YAE%YO-YEO%YO-O%YO-I%U-A%U-AE%U-EO-EU%U-YE%U-U%YU-A%YU-EO%YU-E%YU-YEO",
      "%YU-YE%YU-U%YU-I%EU-U%EU-EU%YI-U%I-A%I-YA%I-O%I-U%I-EU%I-ARAEA%ARAEA%ARAEA-EO%ARAEA-U",
      "%ARAEA-I%SSANGARAEA%A-EU%YA-U%YEO-YA%O-YA%O-YAE$JONGSEONGxd%zw%KIYEOK-SIOS%NIEUN%zz%z0%xe",
      "%RIEUL%zs%z1%z2%RIEUL-SIOS%RIEUL-THIEUTH%RIEUL-PHIEUPH%zy%MIEUM%PIEUP%PIEUP-SIOS%SIOS",
      "%SSANGSIOS%v0%v1%w4%w5%w6%w7%HIEUH%KIYEOK-RIEUL%KIYEOK-SIOS-KIYEOK%NIEUN-KIYEOK%NIEUN-TIKEUT",
      "%NIEUN-SIOS%NIEUN-PANSIOS%NIEUN-THIEUTH%TIKEUT-KIYEOK%TIKEUT-RIEUL%RIEUL-KIYEOK-SIOS",
      "%RIEUL-NIEUN%RIEUL-TIKEUT%RIEUL-TIKEUT-HIEUH%SSANGRIEUL%RIEUL-MIEUM-KIYEOK%RIEUL-MIEUM-SIOS",
      "%RIEUL-PIEUP-SIOS%RIEUL-PIEUP-HIEUH%RIEUL-KAPYEOUNPIEUP%RIEUL-SSANGSIOS%RIEUL-PANSIOS",
      "%RIEUL-KHIEUKH%RIEUL-YEORINHIEUH%MIEUM-KIYEOK%MIEUM-RIEUL%MIEUM-PIEUP%MIEUM-SIOS",
      "%MIEUM-SSANGSIOS%MIEUM-PANSIOS%MIEUM-CHIEUCH%MIEUM-HIEUH%KAPYEOUNMIEUM%PIEUP-RIEUL",
      "%PIEUP-PHIEUPH%PIEUP-HIEUH%KAPYEOUNPIEUP%SIOS-KIYEOK%SIOS-TIKEUT%SIOS-RIEUL%SIOS-PIEUP",
      "%PANSIOS%IEUNG-KIYEOK%IEUNG-SSANGKIYEOK%SSANGIEUNG%IEUNG-KHIEUKH%YESIEUNG%YESIEUNG-SIOS",
      "%YESIEUNG-PANSIOS%PHIEUPH-PIEUP%KAPYEOUNPHIEUPH%HIEUH-NIEUN%HIEUH-RIEUL%HIEUH-MIEUM",
      "%HIEUH-PIEUP%YEORINHIEUH%KIYEOK-NIEUN%KIYEOK-PIEUP%KIYEOK-CHIEUCH%KIYEOK-KHIEUKH",
      "%KIYEOK-HIEUH%SSANGNIEUN!ETHIOPICrcHA%HU%HI%HAA%HEE%HE%HO%HOA%LA%LU%LI%LAA%LEE%LE%LO%LWA%HHA",
      "%HHU%HHI%HHAA%HHEE%HHE%HHO%HHWA%MA%MU%MI%MAA%MEE%ME%MO%MWA%SZA%SZU%SZI%SZAA%SZEE%SZE%SZO",
      "%SZWA%RA%RU%RI%RAA%REE%RE%RO%RWA%SA%SU%SI%SAA%SEE%SE%SO%SWA%kj%SHU%SHI%SHAA%SHEE%m7%SHO%SHWA",
      "%QA%QU%QI%QAA%QEE%QE%QO%QOA%QWA!!ETHIOPICrcQWI%QWAA%QWEE%QWE!!!ETHIOPICrcQHA%QHU%QHI%QHAA",
      "%QHEE%QHE%QHO!!ETHIOPICrcQHWA!!ETHIOPICrcQHWI%QHWAA%QHWEE%QHWE!!!ETHIOPICrcBA%BU%BI%BAA%BEE",
      "%BE%BO%BWA%VA%VU%VI%VAA%VEE%VE%VO%VWA%TA%TU%TI%TAA%TEE%TE%TO%TWA%CA%CU%CI%CAA%CEE%CE%CO%CWA",
      "%XA%XU%XI%XAA%XEE%XE%XO%XOA%XWA!!ETHIOPICrcXWI%XWAA%XWEE%XWE!!!ETHIOPICrcNA%NU%NI%NAA%NEE%NE",
      "%NO%NWA%kr%NYU%NYI%NYAA%NYEE%NYE%NYO%NYWA%n7A&U&I&AA&EE&E&O&WA%KA%KU%KI%KAA%KEE%KE%KO%KOA",
      "%KWA!!ETHIOPICrcKWI%KWAA%KWEE%KWE!!!ETHIOPICrcKXA%KXU%KXI%KXAA%KXEE%KXE%KXO!!ETHIOPICrcKXWA!",
      "!ETHIOPICrcKXWI%KXWAA%KXWEE%KXWE!!!ETHIOPICrcWA%WU%WI%WAA%WEE%WE%WO%WOA%PHARYNGEAL A&U&I&AA",
      "&EE&E&O!!ETHIOPICrcZA%ZU%ZI%ZAA%ZEE%ZE%ZO%ZWA%pv%ZHU%ZHI%ZHAA%ZHEE%ZHE%ZHO%ZHWA%YA%YU%YI%YAA",
      "%YEE%YE%YO%YOA%DA%DU%DI%DAA%DEE%DE%DO%DWA%lt%DDU%DDI%DDAA%DDEE%DDE%DDO%DDWA%JA%JU%JI%JAA%JEE",
      "%JE%JO%JWA%GA%GU%GI%GAA%GEE%GE%GO%GOA%GWA!!ETHIOPICrcGWI%GWAA%GWEE%GWE!!!ETHIOPICrcGGA%GGU",
      "%GGI%GGAA%GGEE%GGE%GGO%GGWAA%k3%THU%THI%THAA%THEE%mv%THO%THWA%kp%CHU%pa%CHAA%CHEE%pb%CHO",
      "%CHWA%lf%PHU%oz%PHAA%PHEE%PHE%PHO%PHWA%nv%TSU%TSI%TSAA%TSEE%TSE%TSO%TSWA%TZA%TZU%TZI%TZAA",
      "%TZEE%TZE%TZO%TZOA%FA%FU%FI%FAA%FEE%FE%FO%FWA%PA%PU%PI%PAA%PEE%PE%PO%PWA%RYA%MYA%FYA!!",
      "!ETHIOPICmmzbgjkr0ij%jkr0ij%zbij$o6ij$WORDSPACE$lqki$k2$th$nj$PREFACEnj$nxij$zeo2$jpig%id%ik",
      "%io%is%iy%i5%iz%i9$kxka%mf%po%qs%nb%q5%m4%r1%mr%i7%kajh!!!!ETHIOPICrcSEBATBEIT MWA%MWI%MWEE",
      "%MWE%SEBATBEIT BWA%BWI%BWEE%BWE%SEBATBEIT FWA%FWI%FWEE%FWE%SEBATBEIT PWA%PWI%PWEE%PWE",
      "$TONALijYIZET&DERET&RIKRIK&lpRIKRIK&DIFAT&KENAT&CHIRET&HIDET&DERET-HIDET&KURT!!!!!!",
      "!CHEROKEEbA%E%I%O%U%V%GA%KA%GE%GI%GO%GU%GV%HA%HE%HI%HO%HU%HV%LA%LE%LI%LO%LU%LV%MA%ME%MI%MO",
      "%MU%NA%HNA%NAH%NE%NI%NO%NU%NV%QUA%QUE%QUI%QUO%QUU%QUV%SA%S%SE%SI%SO%SU%SV%DA%TA%DE%TE%DI%TI",
      "%DO%DU%DV%DLA%TLA%TLE%TLI%TLO%TLU%TLV%nv%TSE%TSI%TSO%TSU%TSV%WA%WE%WI%WO%WU%WV%YA%YE%YI%YO",
      "%YU%YV%MV!!!CHEROKEEcbYE&YI&YO&YU&YV&MV!!!CANADIAN SYLLABICStn%E%AAI%I%II%O%OO%toOO%ufEE&I%A",
      "%AA%WE%j2WE%WI%j2WI%WII%j2WII%WO%j2WO%WOO%j2WOO%uvWOO%WA%j2WA%WAA%j2WAA%uvWAA%AI%toW%n7ki",
      "%ifjx&ko&ndi6jq&mdi6jq&iai6jq&jq&ihjx*lpixSTROKES&iwii&lpjniq&i3&i8m6%EN%IN%ON%AN%PE%PAAI%PI",
      "%PII%PO%POO%toPOO%ufHEE&HI%PA%PAA%PWE%j2PWE%PWI%j2PWI%PWII%j2PWII%PWO%j2PWO%PWOO%j2PWOO%PWA",
      "%j2PWA%PWAA%j2PWAA%toPWAA%P%j2P%ufH%TE%TAAI%TI%TII%TO%TOO%toTOO%ufDEE&DI%TA%TAA%TWE%j2TWE",
      "%TWI%j2TWI%TWII%j2TWII%id%j2id%TWOO%j2TWOO%TWA%j2TWA%TWAA%j2TWAA%uvTWAA%T%TTE%TTI%TTO%ls%KE",
      "%KAAI%KI%KII%KO%KOO%toKOO%KA%KAA%KWE%j2KWE%KWI%j2KWI%KWII%j2KWII%KWO%j2KWO%KWOO%j2KWOO%KWA",
      "%j2KWA%KWAA%j2KWAA%uvKWAA%K%KW%SOUTH-SLAVEY KEH&KIH&KOH&KAH%CE%CAAI%CI%CII%CO%COO%toCOO%CA",
      "%CAA%CWE%j2CWE%CWI%j2CWI%CWII%j2CWII%CWO%j2CWO%CWOO%j2CWOO%CWA%j2CWA%CWAA%j2CWAA%uvCWAA%C",
      "%vuTH%ME%MAAI%MI%MII%MO%MOO%toMOO%MA%MAA%MWE%j2MWE%MWI%j2MWI%MWII%j2MWII%MWO%j2MWO%MWOO",
      "%j2MWOO%MWA%j2MWA%MWAA%j2MWAA%uvMWAA%M%j2M%MH%ATHAPASCAN M%vuM%NE%NAAI%NI%NII%NO%NOO%toNOO",
      "%NA%NAA%NWE%j2NWE%NWA%j2NWA%NWAA%j2NWAA%uvNWAA%N%ufNG%NH%LE%LAAI%LI%LII%LO%LOO%toLOO%LA%LAA",
      "%LWE%j2LWE%LWI%j2LWI%LWII%j2LWII%LWO%j2LWO%LWOO%j2LWOO%LWA%j2LWA%LWAA%j2LWAA%L%j2L%j0L%SE",
      "%SAAI%SI%SII%SO%SOO%toSOO%SA%SAA%SWE%j2SWE%SWI%j2SWI%SWII%j2SWII%SWO%j2SWO%SWOO%j2SWOO%SWA",
      "%j2SWA%SWAA%j2SWAA%uvSWAA%S%ATHAPASCAN S%SW%BLACKFOOT S%MOOSE-CREE SK%uvSKW&S-W&SPWA&STWA",
      "&SKWA&SCWA%m7%SHI%SHII%SHO%SHOO%kj%SHAA%SHWE%j2SHWE%SHWI%j2SHWI%SHWII%j2SHWII%SHWO%j2SHWO",
      "%SHWOO%j2SHWOO%SHWA%j2SHWA%SHWAA%j2SHWAA%SH%YE%YAAI%YI%YII%YO%YOO%toYOO%YA%YAA%YWE%j2YWE%YWI",
      "%j2YWI%YWII%j2YWII%YWO%j2YWO%YWOO%j2YWOO%YWA%j2YWA%YWAA%j2YWAA%uvYWAA%Y%BIBLE-CREE Y%j2Y",
      "%vuYI%RE%R-CREE RE%j2LE%RAAI%RI%RII%RO%ROO%j2LO%RA%RAA%j2LA%RWAA%j2RWAA%R%j2R%j0R%FE%FAAI%FI",
      "%FII%FO%FOO%FA%FAA%FWAA%j2FWAA%F%mv%N-CREEmv%THI%N-CREE THI%THII%N-CREE THII%THO%THOO%k3",
      "%THAA%THWAA%j2THWAA%TH%TTHE%TTHI%TTHO%mc%TTH%TYE%TYI%TYO%TYA%NUNAVIK HE&HI&HII&HO&HOO&HA&HAA",
      "&H%NUNAVUT H%HK%QAAI%QI%QII%QO%QOO%QA%QAA%Q%TLHE%TLHI%TLHO%TLHA%j2RE&RI&RO&RA%NGAAI%NGI%NGII",
      "%NGO%NGOO%kh%NGAA%NG%NNG%vum7&SHI&SHO&kj%WOODS-CREEmv&THI&THO&k3&TH%LHI%LHII%LHO%LHOO%LHA",
      "%LHAA%LH%TH-CREEmv&THI&THII&THO&THOO&k3&THAA&TH%AIVILIK B%BLACKFOOT E&I&O&A&WE&WI&WO&WA&NE",
      "&NI&NO&NA&KE&KI&KO&KA%vuHE&HI&HO&HA%ufGHU&GHO&GHE&GHEE&GHI&lx&RU&RO&RE&REE&RI&RA&WU&WO&WE",
      "&WEE&WI&WA&HWU&HWO&HWE&HWEE&HWI&HWA&THU&THO&mv&THEE&THI&k3&TTU&TTO&TTE&TTEE&TTI&ls&PU&PO&PE",
      "&PEE&PI&PA&P&GU&GO&GE&GEE&GI&GA&KHU&KHO&KHE&KHEE&KHI&kw&KKU&KKO&KKE&KKEE&KKI&KKA&KK&NU&NO&NE",
      "&NEE&NI&NA&MU&MO&ME&MEE&MI&MA&YU&YO&YE&YEE&YI&YA&JU%vuJU%ufJO&JE&JEE&JI%vuJI%ufJA&JJU&JJO",
      "&JJE&JJEE&JJI&JJA&LU&LO&LE&LEE&LI&LA&DLU&DLO&DLE&DLEE&DLI&DLA&LHU&LHO&LHE&LHEE&LHI&LHA&TLHU",
      "&TLHO&TLHE&TLHEE&TLHI&TLHA&TLU&TLO&TLE&TLEE&TLI&TLA&ZU&ZO&ZE&ZEE&ZI&ZA&Z&itZ&DZU&DZO&DZE",
      "&DZEE&DZI&DZA&SU&SO&SE&SEE&SI&SA&SHU&SHO&m7&SHEE&SHI&kj&SH&TSU&TSO&TSE&TSEE&TSI&nv&CHU&CHO",
      "&pb&CHEE&pa&kp&TTSU&TTSO&TTSE&TTSEE&TTSI&TTSA%paf%lqki%QAI%NGAI%NNGI%NNGII%NNGO%NNGOO%NNGA",
      "%NNGAA%WOODS-CREE THWEE&THWI&THWII&THWO&THWOO&THWA&THWAA&ifTH%BLACKFOOT W!OGHAMppij$bBEITH",
      "%LUIS%FEARN%SAIL%NION%UATH%DAIR%TINNE%COLL%CEIRT%MUIN%GORT%NGEADAL%STRAIF%RUIS%AILM%ONN%UR",
      "%EADHADH%IODHADH%EABHADH%OR%UILLEANN%IFIN%EAMHANCHOLL%PEITH$FEATHERij$kdFEATHERij!!!",
      "!RUNICbFEHU FEOH FE F%V%URUZ UR U%YR%Y%W%THURISAZ THURS THORN%ETH%ANSUZ A%OS O%AC A%AESC",
      "%LONG-BRANCH-OSS O%SHORT-TWIG-OSS O%O%OE%ON%RAIDO RAD REID R%KAUNA%CEN%KAUN K%G%ENG",
      "%GEBO GYFU G%oh%WUNJO WYNN W%HAGLAZ H%HAEGL H%LONG-BRANCH-HAGALL H%SHORT-TWIG-HAGALL H",
      "%NAUDIZ NYD NAUD N%SHORT-TWIG-NAUD N%DOTTED-N%ISAZ IS ISS I%E%JERAN J%GER%LONG-BRANCH-AR AE",
      "%SHORT-TWIG-AR A%IWAZ EOH%PERTHO PEORTH P%ALGIZ EOLHX%SOWILO S%SIGEL LONG-BRANCH-SOL S",
      "%SHORT-TWIG-SOL S%C%Z%TIWAZ TIR TYR T%SHORT-TWIG-TYR T%D%BERKANAN BEORC BJARKAN B",
      "%SHORT-TWIG-BJARKAN B%DOTTED-P%OPEN-P%EHWAZ EH E%MANNAZp0M%LONG-BRANCH-MADR M",
      "%SHORT-TWIG-MADR M%LAUKAZ LAGU LOGR L%DOTTED-L%INGWAZ%ING%DAGAZ DAEG D%OTHALAN ETHEL O%EAR",
      "%IOR%CWEORTH%CALC%CEALC%STAN%LONG-BRANCH-YR%SHORT-TWIG-YR%ICELANDIC-YR%Q%X$knl8$stl8$l0l8",
      "$ARLAUGir$TVIMADURir$BELGTHORir$bK%SH%OO%FRANKS CASKET OS*IS*EH*AC*AESC!!!!!!!!TAGALOGbA%I%U",
      "%KA%GA%kh%TA%DA%NA%PA%BA%MA%YA%RA%LA%WA%SA%HA$jkfI&U$fme%PAMUDPOD!!!!!!!!!!TAGALOGbqcRA",
      "!HANUNOObA%I%U%KA%GA%kh%TA%DA%NA%PA%BA%MA%YA%RA%LA%WA%SA%HA$jkfI&U$fPAMUDPOD!PHILIPPINEknl8",
      "$ihl8!!!!!!!!!!BUHIDbA%I%U%KA%GA%kh%TA%DA%NA%PA%BA%MA%YA%RA%LA%WA%SA%HA$jkfI&U!!!!!!!!!!!!",
      "!TAGBANWAbA%I%U%KA%GA%kh%TA%DA%NA%PA%BA%MA%YA!!TAGBANWAbLA%WA%SA!!TAGBANWAjkfI&U!!!!!!!!!!!!",
      "!KHMERbKA%kw%KO%KHO%NGO%CA%kp%CO%CHO%NYO%DA%mc%DO%TTHO%NNO%TA%k3%TO%THO%NO%BA%lf%PO%PHO%MO",
      "%YO%RO%LO%VO%kj%SSO%SA%HA%LA%QA$v8jkQAQ&QAA&QI&QII&QU&QUK&QUU&QUUV&RY&RYY&LY&LYY&QE&QAI",
      "&QOO TYPEig+id&QAU$jkINHERENT AQ&AA%fAA&I&II&Y&YY&U&UU&UA&OE&YA&IE&E&AE&AI&OO&AU$fNIKAHIT",
      "%REAHMUK%YUUKALEAPINTU%MUUSIKATOAN%TRIISAP%BANTOC%ROBAT%TOANDAKHIAT%KAKABAT%AHSDA",
      "%SAMYOK SANNYA%VIRIAM%COENG%BATHAMASAT%KHAN%BARIYOOSAN%CAMNUC PII KUUH%LEK TOO%BEYYAL",
      "%PHNAEK MUAN%KOOMUUT$CURRENCYirRIEL$fAVAKRAHASANYA%ATTHACAN!!!KHMERjpj1%ig%id%ik%io%is%iy%i5",
      "%iz%i9!!!!!!!KHMERirLEK ATTAK SON*MUOY*PII*BEI*BUON*PRAM*PRAM-MUOY*PRAM-PII*PRAM-BEI",
      "*PRAM-BUON!!!!!!!MONGOLIANva$wp$k2$lqki$nj$ioje$TODOsotn$SIBErcBOUNDARYxc$MANCHUk2%lqki",
      "$NIRUGU$FREE VARIATION SELECTORig*id*ik$jko2$FREE VARIATION SELECTORio$jpj1%ig%id%ik%io%is",
      "%iy%i5%iz%i9!!!!!!!MONGOLIANbA%E%I%O%U%OE%UE%EE%NA%ANG%BA%PA%QA%GA%MA%LA%SA%kj%TA%DA%kp%JA",
      "%YA%RA%WA%FA%KA%kw%nv%ZA%HAA%ZRA%LHA%ZHI%pa%TODOj9jkf&E&I&O&U&OE&UE&ANG&BA&PA&QA&GA&MA&TA&DA",
      "&kp&JA&nv&YA&WA&KA&GAA&HAA&JIA&NIA&DZA%SIBE E&I&IY&UE&U&ANG&KA&GA&HA&PA&kj&TA&DA&JA&FA&GAA",
      "&HAA&nv&ZA&RAA&kp&pv%MANCHU I&KA&RA&FA&pv%kpaidje!!!!!!!!MONGOLIANbALI GALIlrig*mxig*DAMARU",
      "*UBADAMA*ksUBADAMA*BALUDA*ikBALUDA*A*I*KA*kh*CA*ls*mc*lt*l4*TA*DA*PA*lf*ml*pv*ZA*AH",
      "%TODO ALI GALI TA+pv%MANCHU ALI GALIlx+kh+CA+mz+ls+mk+TA+lv+ml+CYA+pv+ZA%ALI GALIi6U+YA",
      "%MANCHU ALI GALIl7%ALI GALI DAGALGA%MANCHU ALI GALI LHA!!!!!!CANADIAN SYLLABICS OY%AY%AAY",
      "%WAY%POY%PAY%PWOY%TAY%KAY%KWAY%MAY%NOY%NAY%LAY%SOY%SAY%SHOY%SHAY%SHWOY%YOY%YAY%RAY%NWI",
      "%OJIBWAY NWI%NWII%OJIBWAY NWII%NWO%OJIBWAY NWO%NWOO%OJIBWAY NWOO%RWEE%RWI%RWII%RWO%RWOO%RWA",
      "%OJIBWAY P&T&K&C&M&N&S&SH%EASTERN W%WESTERN W%ifcjq&omii%R-CREE RWE%j2LOO&LAA%THWE%THWA",
      "%TTHWE%TTHOO%TTHAA%TLHWE%TLHOO%vuSHWE&SHOO&HOO%ufGWU&DENE GEE&GAA&GWA%vuJUU%ufJWA",
      "%BEAVER DENE L*R%ufDENTAL S!!!!!!!!!!!LIMBU VOWEL-CARRIERb$bKA%kw%GA%lx%kh%CA%kp%JA%mz%YAN",
      "%TA%k3%DA%lv%NA%PA%lf%BA%l7%MA%YA%RA%LA%WA%kj%ml%SA%HA%GYAN%TRA!!LIMBUjkfA&I&U&EE&AI&OO&AU&E",
      "&O$ydbYA&RA&WA!!!!!LIMBUcbKA&kh&lr&TA&NA&PA&MA&RA&LA$fMUKPHRENG%KEMPHRENG%SA-I!!!!!LIMBUfLOO",
      "!!!!LIMBUokij$nxij$jpj1%ig%id%ik%io%is%iy%i5%iz%i9!TAI LEbKA&XA&kh&nv&SA&YA&TA&k3&LA&PA&lf",
      "&MA&FA&VA&HA&QA&kw&r8&NA&A&I&EE&EH&U&OO&O&UE&E&AUE&AI!!!TAI LEbu2&vr&TONE-4&u3&TONE-6!!!!!!!",
      "!!!!!NEW TAI LUEbkgQA*jvQA*kgKA+XA+kh*jvKA+XA+kh*kgnv+SA+YA*jvnv+SA+YA*kgTA+k3+NA*jvTA+k3+NA",
      "*kgPA+lf+MA*jvPA+lf+MA*kgFA+VA+LA*jvFA+VA+LA*kgHA+DA+BA*jvHA+DA+BA*kgKVA+XVA*jvKVA+XVA*kgSUA",
      "*jvSUA!!!!!NEW TAI LUEjkfjkSHORTENER+AA+II+U+UU+E+AE+O+OA+UE+AY+AAY+UY+OY+OAY+UEY+IY&bifV+NG",
      "+N+M+K+D+B&j5MARK-1*MARK-2!!!!!!!NEW TAI LUEjpj1*ig*id*ik*io*is*iy*i5*iz*i9&THAMjpig!!!",
      "!NEW TAI LUEfLAE*LAEV!KHMERirPATHAMASAT%MUOYr9%PIIr9%BEIr9%BUONr9%PRAMr9%PRAM-MUOYr9",
      "%PRAM-PIIr9%PRAM-BEIr9%PRAM-BUONr9%DAPr9%DAP-MUOYr9%DAP-PIIr9%DAP-BEIr9%DAP-BUONr9",
      "%DAP-PRAMr9%TUTEYASAT%MUOY ROC%PII ROC%BEI ROC%BUON ROC%PRAM ROC%PRAM-MUOY ROC%PRAM-PII ROC",
      "%PRAM-BEI ROC%PRAM-BUON ROC%DAP ROC%DAP-MUOY ROC%DAP-PII ROC%DAP-BEI ROC%DAP-BUON ROC",
      "%DAP-PRAM ROC!BUGINESEbKA%GA%kh%NGKA%PA%BA%MA%MPA%TA%DA%NA%NRA%CA%JA%kr%NYCA%YA%RA%LA%VA%SA",
      "%A%HA$jkfI&U&E&O&AE!!!BUGINESE PALLAWA$ntOFo6!TAI THAMbkgKA*kw*KXA&jvKA*KXA*kw&kh&kgCA*kp",
      "&jvCA*SA*kp&kr&RATA&kgRATHA&DA&jvRATHA&RANA&kgTA*k3&jvTA*k3&NA&BA&kgPA*lf*FA&jvPA*FA*lf&MA",
      "&jvYA&kgYA&RA&RUE&LA&LUE&WA&kgkj*ml*SA*HA&og&A&jvHA&I&II&U&UU&EE&OO&LAE&GREAT SA%pdfj0RA+LA",
      "*LA TANG LAI%fMAI KANG LAI%pdfifkh*jvPA*kgRATHA ORjvPA*MA*BA*SA!!TAI THAMfSAKOT%jkfA*MAI SAT",
      "*AA*TALL AA*I*II*UE*UUE*U*UU*O*OAie*OY*E*AE*OO*AI*THAM AI*OAib%fMAI KANG&TONE-1&u2&KHUENvr",
      "*TONE-4*u3&RA HAAM&MAI SAM&KHUEN-LUE KARAN!!!TAI THAMmmvdii%HORAjpj1*ig*id*ik*io*is*iy*i5*iz",
      "*i9!!!!!!!TAI THAM THAMjpj1*ig*id*ik*io*is*iy*i5*iz*i9!!!!!!!TAI THAMfWIANG&WIANGWAAK&SAWAN",
      "&KEOW&HOY&DOKMAI&kdkyRANA&MAI YAMOK&KAAN&KAANKUU&SATKAAN&SATKAANKUU&HANG&CAANG!!",
      "!mmDOUBLEDkbmn$DIAERESIS-RING$yi$jrh$lzii$X-Xie$WIGGLYkqie$j6ijie$ihj6ijie$jlziiqie",
      "$STRONGziiqie$PARENTHESESib$ihPARENTHESESib$PARENTHESESie%pf$locbWie*j7Wie$icmaibic$iamaibia",
      "$icmaieic$iamaieia$jbBRACKETSib$kxfib$ksihARCHib$i3fib$ihi3fib*ie$lzjxmn$locbqoG+R+T"]⟩,
    ⟨0x1B00, [
      "!BALINESEfULU RICEM&rz%CECEK%SURANG%BISAH$bAKARA&tp%IKARA&tp%UKARA&tp%RA REPA*tp%LA LENGA*tp",
      "%EKARA%AIKARA%OKARA&tp%KA&wf%GA&GORA%kh%CA&LACA%JA&JERA%kr%TA LATIK&umwf%DAumALPAPRANA*wf",
      "%NA RAMBAT%TA&TAWA%DA&MADU%NA%PA&KAPAL%BA&KEMBANG%MA%YA%RA%LA%WA%SA SAGA&SAPA%SA%HA$fREREKAN",
      "$jkftp&ULU*SARI&SUKU*ILUT&RA REPA+tp&LA LENGA+tp&TALING*REPA*tp*REPAtp&PEPET*tp$ADEG ADEG",
      "$bnuSASAK%KHOT SASAK%TZIR SASAK%EF SASAK%VE SASAK%ZAL SASAK%ASYURA SASAK%qcJNYA!!!",
      "!BALINESEjpj1%ig%id%ik%io%is%iy%i5%iz%i9$PANTI$PAMADA$WINDU$CARIK PAMUNGKAH%SIKI%PAREREN",
      "$PAMENENG$tkirDONG&DENG&DUNG&DANG*SURANG&DING&DAENG&DEUNG&DAING&DANG GEDE&mmTEGEH*ENDEP",
      "*KEMPUL*KEMPLI*JEGOGAN*KEMPULaJEGOGAN*KEMPLIaJEGOGAN*BENDE*GONG&RIGHT-HANDj6DUG+DAG*m3TUK",
      "+TAK&LEFT-HANDj6PANG+PUNG*m3PLAK+PLUK*j6PING$PANTI LANTANG$PAMADA LANTANG!",
      "!SUNDANESEfPANYECEK%PANGLAYAR%PANGWISAD$bA%I%U%AE%O%E%EU%KA%QA%GA%kh%CA%JA%ZA%kr%TA%DA%NA%PA",
      "%FA%VA%BA%MA%YA%RA%LA%WA%SA%XA%HA$pdfPAMINGKAL&PANYAKRA&PANYIKU$jkfPANGHULU&PANYUKU",
      "&PANAELAENG&PANOLONG&PAMEPET&PANEULEUNG$fPAMAAEH%me$pdfPASANGAN MA*WA$bkw%SYA$jpj1%ig%id%ik",
      "%io%is%iy%i5%iz%i9$rb$bREU%LEU%l7%ifK&M!BATAKbA%ubA%HA%ubHA%MANDAILING HA%BA%KARO BA%PA%ubPA",
      "%NA%MANDAILING NA%WA%ubWA%PAKPAK WA%GA%ubGA%JA%DA%RA%ubRA%MA%ubMA%SOUTHERN TA%NORTHERN TA%SA",
      "%ubSA%MANDAILING SA%YA%ubYA%kh%LA%ubLA%kr%CA%NDA%MBA%I%U$fTOMPI$jkfE&PAKPAK E&EE&I&KARO I&O",
      "&KARO O&U*mtubSA$pdfNG&H$PANGOLAT$PANONGONAN!!!!!!!!!BATAKirBINDU NA METEK&PINARBORAS&JUDUL",
      "&PANGOLAT!LEPCHAbKA%KLA%kw%GA%GLA%kh%CA%kp%JA%kr%TA%k3%DA%NA%PA%PLA%lf%FA%FLA%BA%BLA%MA%MLA",
      "%nv%r8%DZA%YA%RA%LA%HA%HLA%VA%SA%kj%WA%A$ydbYA&RA$jkfAA&I&O&OO&U&UU&E$pdfK&M&L&N&P&R&T",
      "&NYIN-DO&KANG$fRAN%oy!!!!LEPCHAl8TA-ROL%NYET THYOOM TA-ROL%CER-WA%TSHOOK CER-WA%TSHOOK$jpj1",
      "%ig%id%ik%io%is%iy%i5%iz%i9!!!!LEPCHAbls%mc%lt!OL CHIKIjpj1&ig&id&ik&io&is&iy&i5&iz&i9%bLA",
      "&AT&AG&ANG&AL&LAA&AAK&AAJ&AAM&AAW&LI&IS&IH&INY&IR&LU&UC&UD&UNN&UY&LE&EP&EDD&EN&ERR&LO&OTT&OB",
      "&OV&OH%MU TTUDDAG%GAAHLAA TTUDDAAG%MU-GAAHLAA TTUDDAAG%RELAA%PHAARKAA%AHAD%l8MUCAAD&ihMUCAAD",
      "!sdcbutVE&LONG-LEGGED DE&NARROW O&WIDE ES&TALL TE&THREE-LEGGED TE&TALL HARDf*YAT",
      "&UNBLENDED UK!!!!!!!!GEORGIAN MTAVRULIebAN*BAN*GAN*DON*EN*VIN*ZEN*TAN*IN*KAN*LAS*p0*NAR*ON",
      "*PAR*ZHAR*RAE*SAN*TAR*UN*PHAR*KHAR*GHAN*QAR*nr*CHIN*CAN*JIL*CIL*CHAR*XAN*JHAN*HAE*HE*HIE*WE",
      "*HAR*HOE*FI*YN*ELIFI*j7GAN*nc!!!GEORGIAN MTAVRULIebAEN*HARDf*LABIALf!SUNDANESEl8BINDU SURYA",
      "&PANGLONG&PURNAMA&CAKRA&LEU SATANGA&KA SATANGA&DA SATANGA&BA SATANGA!!!!!!!!!VEDICj5KARSHANA",
      "%SHARA%PRENKHA$fNIHSHVASA%YAJURVEDIC MIDLINEuw$j5YAJURVEDIC AGGRAVATEDv8uw&v8uw&KATHAKAv8uw",
      "%rzie%YAJURVEDIC KATHAKAv8uwSCHROEDER%ihuw%lzuw%KATHAKA ANUDATTA%iiie%idjeie%ikjeie",
      "%RIGVEDIC KASHMIRIv8uw%ATHARVAVEDICv8uw$fmxuw&UDATTA%kdmxUDATTA%mxANUDATTA%kdmxANUDATTA",
      "%mxUDATTAale&ANUDATTAale%lrANTARGOMUKHA&BAHIRGOMUKHA&VAMAGOMUKHA*ale%TIRYAK%HEXIFORMj9lr",
      "%j9lr%RTHANGj9lr%lrUBHAYATO MUKHA%ARDHAVISARGA%kyARDHAVISARGA$j5rzib$fx7%x8%ATIKRAMA$j5jqib",
      "%ihjqib$fihlrANTARGOMUKHA!!!!!!lobceA*AE$cbj7AE$bceuzB*C*D*ETH*E$cbj7j6E*I$bceJ*K*Laiq*M*kdN",
      "*O*j6O$cbvjO*j6O*Oaiq&j7OE$bceOU$cbmdi6O&ndi6O$bceP*kdR*j7R*T*U$cbvjU*DIAERESIZED U*j7M$bceV",
      "*W*Z*EZH%u0LARYNGEAL SPIRANT%nc!owbcepq*sk*PI*of*PSI!sdbceEL!npbeA&AE&B&uzB&D&E&kdE&G&H&I&J",
      "&K&L&M&N&kdN&O&OU&P&R&T&U&W%cA&j7A&na&j7AE&B&D&E&u7&j6E&j7j6E&G&j7I&K&M&ENG&O&j6O&mdi6O",
      "&ndi6O&P&T&U&vjU&j7M&V&nc&qh&owpq&p2&owoz&pa!loxocbI*R*U*V!owxocbqh*pq*of*oz*pa!locbUE",
      "&Baiwjo&Daiwjo&Faiwjo&Maiwjo&Naiwjo&Paiwjo&Raiwjo+xrgiwjo&Saiwjo&Taiwjo&Zaiwjo&j7G!npbsdEN",
      "!locbqoG&THaSTRIKETHROUGH%ebIaiq%bnkaiq&Paiq%ebUaiq%bn6aiq&Banzip&Danzip&Fanzip&Ganzip",
      "&Kanzip&Lanzip&Manzip&Nanzip&Panzip&Ranzip&Sanzip&ESHanzip&Vanzip&Xanzip&Zanzip&Aambip",
      "&naambip&Daipgle&Eambip&j6Eambip&kdj6Eambip&u7ambip&Iambip&j6Oambip&ESHambip&Uambip&EZHambip",
      "!npbcj7na&C*aps&ETH&kdj6E&F&sfJaiq&o8G&j7H&Iaiq&nk&eI+aiq&Jave&Lambip+nzip&eL&Maip&j7Maj9LEG",
      "&Naicip+mbip&eN&uzO&oz&Saip&ESH&Tanzip&Ui2&n6&eU&Vaip&j7V&Z*ambip+ps&EZH&ox!mmmqkomn%jxmn",
      "$SNAKEie$SUSPENSIONij$MACRON-ACUTE$GRAVE-MACRON$MACRON-GRAVE$ACUTE-MACRON$GRAVE-ACUTE-GRAVE",
      "$ACUTE-GRAVE-ACUTE$locbRie$BREVE-MACRON$MACRON-BREVE$ihkbib$ryib$xbie$ISie$URib$USib",
      "$locbFLATTENEDj6Aib*AE*AO*AV*Cny*qoD*ETH*G%bceG%cbK*L%bceL+M%cbN%bceN+R%cbR ROTUNDA*S*j9S*Z",
      "*na*B*qh*u7*F*Laihiwjo*Oajlziiq*P*ESH*Uajlziiq*W*Aakf*Oakf*Uakf$UPm6ib$KAVYKAibia&ic$iiibic",
      "$WIDEksBRIDGEie$iiieic$DELETIONij$ihkslcie$rdjiTOie$ickkib$iakkgi8kkie!loebAajqie$cbAajqie",
      "$ebBaiiib$cbBaiiib$ebBaiiie$cbBaiiie$ebBakqie$cbBakqie$ebCanygjx$cbCanygjx$ebDaiiib$cbDaiiib",
      "$ebDaiiie$cbDaiiie$ebDakqie$cbDakqie$ebDany$cbDany$ebDakbie$cbDakbie$ebEakvgko$cbEakvgko",
      "$ebEakvgjx$cbEakvgjx$ebEakbie$cbEakbie$ebEajoie$cbEajoie$ebEanyglc$cbEanyglc$ebFaiiib",
      "$cbFaiiib$ebGakv$cbGakv$ebHaiiib$cbHaiiib$ebHaiiie$cbHaiiie$ebHakf$cbHakf$ebHany$cbHany",
      "$ebHalcie$cbHalcie$ebIajoie$cbIajoie$ebIakfgjx$cbIakfgjx$ebKajx$cbKajx$ebKaiiie$cbKaiiie",
      "$ebKakqie$cbKakqie$ebLaiiie$cbLaiiie$ebLaiiiegkv$cbLaiiiegkv$ebLakqie$cbLakqie$ebLakbie",
      "$cbLakbie$ebMajx$cbMajx$ebMaiiib$cbMaiiib$ebMaiiie$cbMaiiie$ebNaiiib$cbNaiiib$ebNaiiie",
      "$cbNaiiie$ebNakqie$cbNakqie$ebNakbie$cbNakbie$ebOajogjx$cbOajogjx$ebOajogkf$cbOajogkf",
      "$ebOakvgko$cbOakvgko$ebOakvgjx$cbOakvgjx$ebPajx$cbPajx$ebPaiiib$cbPaiiib$ebRaiiib$cbRaiiib",
      "$ebRaiiie$cbRaiiie$ebRaiiiegkv$cbRaiiiegkv$ebRakqie$cbRakqie$ebSaiiib$cbSaiiib$ebSaiiie",
      "$cbSaiiie$ebSajxgiiib$cbSajxgiiib$ebSal2giiib$cbSal2giiib$ebSaiiiegiiib$cbSaiiiegiiib",
      "$ebTaiiib$cbTaiiib$ebTaiiie$cbTaiiie$ebTakqie$cbTakqie$ebTakbie$cbTakbie$ebUakfie$cbUakfie",
      "$ebUajoie$cbUajoie$ebUakbie$cbUakbie$ebUajogjx$cbUajogjx$ebUakvgkf$cbUakvgkf$ebVajo$cbVajo",
      "$ebVaiiie$cbVaiiie$ebWako$cbWako$ebWajx$cbWajx$ebWakf$cbWakf$ebWaiiib$cbWaiiib$ebWaiiie",
      "$cbWaiiie$ebXaiiib$cbXaiiib$ebXakf$cbXakf$ebYaiiib$cbYaiiib$ebZakb$cbZakb$ebZaiiie$cbZaiiie",
      "$ebZakqie$cbZakqie&Hakqie&Takf&Wajqib&Yajqib&Aaiai6jq&j9Saiiib,l1iq,kgiq$ebSHARP S$cbp2",
      "$ebAaiiie$cbAaiiie$ebAaipib$cbAaipib$ebAakbgjx$cbAakbgjx$ebAakbgko$cbAakbgko$ebAakbgipib",
      "$cbAakbgipib$ebAakbgjo$cbAakbgjo$ebAakbgiiie$cbAakbgiiie$ebAalcgjx$cbAalcgjx$ebAalcgko",
      "$cbAalcgko$ebAalcgipib$cbAalcgipib$ebAalcgjo$cbAalcgjo$ebAalcgiiie$cbAalcgiiie$ebEaiiie",
      "$cbEaiiie$ebEaipib$cbEaipib$ebEajo$cbEajo$ebEakbgjx$cbEakbgjx$ebEakbgko$cbEakbgko",
      "$ebEakbgipib$cbEakbgipib$ebEakbgjo$cbEakbgjo$ebEakbgiiie$cbEakbgiiie$ebIaipib$cbIaipib",
      "$ebIaiiie$cbIaiiie$ebOaiiie$cbOaiiie$ebOaipib$cbOaipib$ebOakbgjx$cbOakbgjx$ebOakbgko",
      "$cbOakbgko$ebOakbgipib$cbOakbgipib$ebOakbgjo$cbOakbgjo$ebOakbgiiie$cbOakbgiiie$ebOam5gjx",
      "$cbOam5gjx$ebOam5gko$cbOam5gko$ebOam5gipib$cbOam5gipib$ebOam5gjo$cbOam5gjo$ebOam5giiie",
      "$cbOam5giiie$ebUaiiie$cbUaiiie$ebUaipib$cbUaipib$ebUam5gjx$cbUam5gjx$ebUam5gko$cbUam5gko",
      "$ebUam5gipib$cbUam5gipib$ebUam5gjo$cbUam5gjo$ebUam5giiie$cbUam5giiie$ebYako$cbYako$ebYaiiie",
      "$cbYaiiie$ebYaipib$cbYaipib$ebYajo$cbYajo$ebztLL$cbztLL$ebztV$cbztV$ebYaqu$cbYaqu!owcbnaake",
      "+kc+kegk0+kcgk0+kegk1+kcgk1+kegl5+kcgl5$ebnaake+kc+kegk0+kcgk0+kegk1+kcgk1+kegl5+kcgl5",
      "$cbolake+kc+kegk0+kcgk0+kegk1+kcgk1!!!owebolake+kc+kegk0+kcgk0+kegk1+kcgk1!!!owcbpzake+kc",
      "+kegk0+kcgk0+kegk1+kcgk1+kegl5+kcgl5$ebpzake+kc+kegk0+kcgk0+kegk1+kcgk1+kegl5+kcgl5$cbnkake",
      "+kc+kegk0+kcgk0+kegk1+kcgk1+kegl5+kcgl5$ebnkake+kc+kegk0+kcgk0+kegk1+kcgk1+kegl5+kcgl5",
      "$cbqnake+kc+kegk0+kcgk0+kegk1+kcgk1!!!owebqnake+kc+kegk0+kcgk0+kegk1+kcgk1!!!owcbn6ake+kc",
      "+kegk0+kcgk0+kegk1+kcgk1+kegl5+kcgl5!!owebn6akc!!owebn6akcgk0!!owebn6akcgk1!!owebn6akcgl5",
      "$cbmsake+kc+kegk0+kcgk0+kegk1+kcgk1+kegl5+kcgl5$ebmsake+kc+kegk0+kcgk0+kegk1+kcgk1+kegl5",
      "+kcgl5$cbnaak0+k1&olak0+k1&pzak0+k1&nkak0+k1&qnak0+k1&n6ak0+k1&msak0+k1!!!owcbnaakegmp+kcgmp",
      "+kegk0gmp+kcgk0gmp+kegk1gmp+kcgk1gmp+kegl5gmp+kcgl5gmp$ebnaakegn5+kcgn5+kegk0gn5+kcgk0gn5",
      "+kegk1gn5+kcgk1gn5+kegl5gn5+kcgl5gn5$cbpzakegmp+kcgmp+kegk0gmp+kcgk0gmp+kegk1gmp+kcgk1gmp",
      "+kegl5gmp+kcgl5gmp$ebpzakegn5+kcgn5+kegk0gn5+kcgk0gn5+kegk1gn5+kcgk1gn5+kegl5gn5+kcgl5gn5",
      "$cbmsakegmp+kcgmp+kegk0gmp+kcgk0gmp+kegk1gmp+kcgk1gmp+kegl5gmp+kcgl5gmp$ebmsakegn5+kcgn5",
      "+kegk0gn5+kcgk0gn5+kegk1gn5+kcgk1gn5+kegl5gn5+kcgl5gn5$cbnaaVRACHY+kv+k0gmp+mp+k1gmp!",
      "!owcbnaal5,gmp$ebnaaVRACHY+kv+k0+k1+n5$KORONIS$n5$ke$l5$scgl5$cbpzak0gmp+mp+k1gmp!!owcbpzal5",
      ",gmp$ebolak0+k1&pzak0+k1+n5$kegk0&k1&l5$cbnkaVRACHY+kv+scgk0:k1!!!owcbnkal5+scgl5",
      "$ebnkaVRACHY+kv+k0+k1!!owkcgk0&k1&l5$cbn6aVRACHY+kv+scgk0:k1&ofake+kc&n6al5+scgl5",
      "$ebn6aVRACHY+kv+k0+k1&ofakc$scgk0&k1$k0!!!owcbmsak0gmp+mp+k1gmp!!owcbmsal5,gmp$ebqnak0+k1",
      "&msak0+k1+n5$k1$kc!!ENsp!EMsp!ENpp!EMpp!THREE-PER-EMpp!FOUR-PER-EMpp!SIX-PER-EMpp!FIGUREpp",
      "!l8pp!THINpp!HAIRpp!j1WIDTHpp%NON-JOINER%JOINER!y6ij!zlij!tn!NON-BREAKINGtn!FIGUREmg!ENmg",
      "!EMmg!jni2!ihixkq$jvkq!icknnoij!iaknnoij!knLOW-9noij$HIGH-REVERSED-9noij!icihnoij!iaihnoij",
      "!ihLOW-9noij$HIGH-REVERSED-9noij!DAGGER!ihDAGGER!sh!pksh!igiiLEADER!idiiLEADER!jnwp",
      "!HYPHENATIONs6!kqo2!zeo2!y6EMBEDDING!zlEMBEDDING!POP DIRECTIONAL FORMATTING!y6OVERRIDE",
      "!zlOVERRIDE!NARROW NO-BREAKpp!PER MILLEf$kajhf!tu!ihtu!lztu!kdtu$ihtu$lztu!u9!knp1lmnoij",
      "$o0lmnoij!REFERENCEij!ihokij!y9!wn!UNDERTIE!vhTIE!u9INSERTIONs6!ASTERISM!tnsh!p9rj",
      "!icjbjaaQUILL!iajbjaaQUILL!ihnxij!nxokij!oknxij!TIRONIANfET!kdPILCROWf!ili4sh$iush!jvly!kdth",
      "!CLOSE UP!idASTERISKS ALIGNEDxm!zaqqf!SWUNGmg!ksUNDERTIE!FLOWERl8ij!ikiil8!udtu!ioiil8",
      "!isiil8!idiil8!ioiiij!mql0!TRICOLON!ixioje!jyx4pp!r7JOINER!FUNCTION APPLICATION!INVISIBLEi0",
      "$o2$i3!!y6ISOLATE!zlISOLATE!v2STRONG ISOLATE!POP DIRECTIONAL ISOLATE",
      "!INHIBIT SYMMETRIC SWAPPING!ACTIVATE SYMMETRIC SWAPPING!INHIBITqddSHAPING!ACTIVATEqddSHAPING",
      "!NATIONALjpSHAPES!NOMINALjpSHAPES!srj1$locbI!!!srio$is$iy$i5$iz$i9$i3f$qq$m2f$icma$iama",
      "$locbN!xoj1$ig$id$ik$io$is$iy$i5$iz$i9$i3f$qq$m2f$icma$iama!!loxocbA*E*O*X*u7*H*K*L*M*N*P*S",
      "*T!!!!EURO-CURRENCYf!njf!CRUZEIROf!FRENCH FRANCf!LIRAf!MILLf!NAIRAf!PESETAf!RUPEEf!WONf",
      "!NEW SHEQELf!DONGf!EUROf!KIPf!TUGRIKf!DRACHMAf!GERMAN PENNYf!PESOf!GUARANIf!AUSTRALf",
      "!HRYVNIAf!CEDIf!LIVRE TOURNOISf!SPESMILOf!TENGEf!INDIAN RUPEEf!TURKISH LIRAf!NORDICijf",
      "!MANATf!RUBLEf!LARIf!BITCOINf!SOMf!!!!!!!!!!!!!!!!mmicldib$ialdib$j9ixkqpf$lpixkqpf$qjhib",
      "$sshib$ichib$iahib$jqpf$ssjqpf$qjjqpf$ikjeib$iojeib$ENCLOSINGjd%jb%mj%jdxp$iciahib",
      "$ENCLOSING SCREEN%KEYCAP%UPWARDktjs$pwo5pf$ihixiqpf$ANNUITYir$lzUNDERDOT$WIDE BRIDGEib$i4hpf",
      "$j9iho5pf$iuldajujr$i4ldajujr$ichie$iahie$lyib!!!!!!!!!!!!!!!!ACCOUNT OF",
      "!ADDRESSED TOmvSUBJECT!uaeC!DEGREE CELSIUS!lbkqir!CARE OF!CADA UNA!EULER CONSTANT!SCRUPLE",
      "!DEGREE FAHRENHEIT!o8cG$eH!y8eH!uaeH!PLANCK CONSTANT%jgidPI!o8eI!y8eI!o8eL$cL!L Bi2ir!uaeN",
      "!NUMEROf!q6RECORDING COPYRIGHT!o8eP!uaeP%Q!o8eR!y8eR!uaeR!PRESCRIPTION TAKE!RESPONSE",
      "!SERVICEij!tif!TRADEijf!VERSICLE!uaeZ!OUNCEf!OHMf!ksOHMf!y8eZ!j7owcbnk!KELVINf!ANGSTROMf",
      "!o8eB!y8eC!ESTIMATEDir!o8cE$eE%F!j7eF!o8eM$cO!jjir!BETir!riir!DALETir!INFORMATION SOURCE",
      "!kyeQ!FACSIMILEf!uacPI%pq$epq%PI$N-ARY SUMMATION!j7pceG&L!kdpceL!j7pceY!uauieD%cD&E&I&J",
      "!PROPERTYkq!j7wb!PERf!AKTIESELSKAB!j7cF!irmtSAMARITAN SOURCE!VULGARp9igSEVENTH&NINTH&TENTH",
      "&s8%idvv%igFIFTH%idFIFTHS%ikFIFTHS%ioFIFTHS%igSIXTH%isSIXTHS%igod%ikrx%isrx%i5rx",
      "!p9NUMERATORig!ROMANusig%id%ik%io%is%iy%i5%iz%i9%ka%tq%si%nb%igi7%isi7%igjh!cROMANusig&id&ik",
      "&io&is&iy&i5&iz&i9&ka&tq&si&nb&igi7&isi7&igjh!ROMANusigjhC D%isjh%kajh%kdigi7!locbkdC",
      "!ROMANusiyLATEd%nbEARLYd&jh%igi7jh!VULGARp9j1vv!j7jpid%ik!!!!!i4h!jwh!iuh!jrh!iciah!UPi8h",
      "!lulih$kzh!l9kzh$lih!i4haiq!iuhaiq!i4pth!iupth!i4idHEADEDh!jwidHEADEDh!iuidHEADEDh",
      "!jridHEADEDh!i4hale!iuhale!i4hnli2!jwhnli2!iuhnli2!jrhnli2!UPi8haBASE!i4haip!iuhaip!i4haqu",
      "!iuhaqu!iciapth%haiq!jrxbh!jwhaTIPi4*iu!jrhaTIPi4*iu!iuhanejr!jrhanei4!qjmdzch!ssmdzch",
      "!lulihTOj9i2!i4hTOi2jgiuhTOi2!qjj6jdh!ssj6jdh!i4ldajujw*jr!jwldajuiu*i4!iuldajujw*jr",
      "!jrldajuiu*i4!iuhjgi4h!jwhi4OFjrh!i4hjgiuh$xfrf!jwxfrf!iuxfrf!jrxfrf!i4ldjgiuld!iuldjgi4ld",
      "!i4ihhaiq!iciaihhaiq!iuihhaiq!i4ihh!jwihh!iuihh!jrihh!iciaihh!UPi8ihh!luliihh$kzihh!l9kzihh",
      "$liihh!i4lzh!iulzh!i4SQUIGGLEh!iuSQUIGGLEh!jwhaihiq!jrhaihiq!i4s4h!jws4h!ius4h!jrs4h!i4hTOi2",
      "!iuhTOi2!i4inh!jwinh!iuinh!jrinh!jwinhnli2&ON PEDESTAL+ajni2,ixi2%ihh*ON PEDESTAL",
      "!iuinhnlWALL!lulihTOne!l9kzhTOne!UPi8inh!iahacjd!jrhi4OFjwh!ikiurf!i4haixiq!iuhaixiq",
      "!iciahaixiq!i4haihixiq!iuhaihixiq!iciahaihixiq!i4OPEN-HEADEDh!iuOPEN-HEADEDh",
      "!iciaOPEN-HEADEDh!mtALL!COMPLEMENT!ytx5!THERE EXISTS$DOESk5EXIST!EMPTY SET!INCREMENT!NABLA",
      "!uxOF!k5ANuxOF!cuxOF!wqAS MEMBER!DOESk5CONTAIN AS MEMBER!cwqAS MEMBER!ntOF PROOF!N-ARYsx",
      "$COPRODUCT$SUMMATION!qqf!MINUS-OR-PLUSf!iii3!wmrj!SETqq!lyl6!jql6!shl6!jbROOT!CUBE ROOT",
      "!FOURTH ROOT!PROPORTIONAL TO!yi!ialm!lm!MEASUREDlm!SPHERICALlm!DIVIDES!DOESk5DIVIDE!wrTO",
      "!k5wrTO!syg$OR!qy!q7!qa!ihqa!lzqa!CONTOURqa!SURFACEqa!VOLUMEqa!ssqa$CONTOURqa!qjCONTOURqa",
      "!THEREFORE!BECAUSE!RATIO!PROPORTION!iiqq!EXCESS!GEOMETRIC PROPORTION!HOMOTHETIC!jol6!kdjo",
      "!ksLAZY S!SINEpt!WREATHsx!k5jo!qqjo!ASYMPTOTICALLYjiTO!k5ASYMPTOTICALLYjiTO!y7jiTO",
      "$BUTk5ACTUALLYjiTO!NEITHERy7NOR ACTUALLYjiTO!rdjiTO!k5rdjiTO!rdjiORjiTO!lzjo!ALLjiTO!rsTO",
      "!GEOMETRICALLYrsTO!DIFFERENCEq0!APPROACHESmvLIMIT!GEOMETRICALLYjiTO!y7jiTO ORmvv3OF",
      "!v3OF ORy7jiTO!njm2!m2nj!jqINjiTO$jiTO!CORRESPONDS TO!ESTIMATES!EQUIANGULAR TO!k9m2!p2jiTO",
      "!jiTO BY DEFINITION!MEASURED BY!QUESTIONEDjiTO!k5jiTO!IDENTICAL TO!k5IDENTICAL TO",
      "!STRICTLYrsTO!k4ORjiTO!k6ORjiTO!k4jgjiTO!k6jgjiTO!k4BUTk5jiTO!k6BUTk5jiTO!MUCHk4$k6!q0",
      "!k5rsTO$k4$k6!NEITHERk4NORjiTO$k6NORjiTO!k4ORrsTO!k6ORrsTO!NEITHERk4NORrsTO$k6NORrsTO!k4ORk6",
      "!k6ORk4!NEITHERk4NORk6$k6NORk4!su!sv!suORjiTO!svORjiTO!suORrsTO!svORrsTO!DOESk5PRECEDE",
      "%SUCCEED!onOF!o4OF!k5AonOF%o4OF!onOF ORjiTO!o4OF ORjiTO!NEITHER AonOF NORjiTO%o4OF NORjiTO",
      "!onOFak5jiTO!o4OFak5jiTO!MULTISET$t9$q7!jbv3OF$ORIGINAL OF$v3OF ORjiTO$ORIGINAL OF ORjiTO",
      "$CAP$CUP!lgi3$qq$i0$wmrj$iil6$jql6$lyl6$m2$mg!m1i3$qq$i0$iil6!iam6!icm6!i8m6!UPm6!ASSERTION",
      "!MODELS!TRUE!FORCES!lzixi2iawg!ihixi2ihiawg!DOESk5PROVE!k5TRUE!DOESk5FORCE",
      "!NEGATEDihixi2ihiawg!suv4RELATION!svv4RELATION!u4wsOF!wqASu4ws!u4wsOF ORjiTO!wqASu4wsORjiTO",
      "!ORIGINAL OF!v3OF!MULTIMAP!HERMITIAN CONJUGATE MATRIX!INTERCALATE!XOR!NAND!NOR!ialmaARC$js",
      "!N-ARYsyg%OR$qy$q7!mjl6!iil6!k9l6!wmi0!BOWTIE!icu4FACTORzdsx!iau4FACTORzdsx!iczdsx!iazdsx",
      "!kdjom2!oosyOR%g!ihon$o4$qy$q7!PITCHFORK!jigwrTO!k4aii!k6aii!obMUCHk4%k6!k4jiTO ORk6",
      "!k6jiTO ORk4!jiTO ORk4&k6&su&sv!DOESk5PRECEDE ORji%SUCCEED ORji!k5jbv3OF ORjiTO",
      "%ORIGINAL OF ORjiTO!jbv3OF ORk5jiTO$ORIGINAL OF ORk5jiTO!k4BUTk5rsTO!k6BUTk5rsTO!suBUTk5rsTO",
      "!svBUTk5rsTO!k5u4wsOF!DOESk5CONTAIN ASu4ws!k5u4wsOF ORjiTO!DOESk5CONTAIN ASu4wsORji!ixwp",
      "!MIDLINEjnwp!UPial1wp!i8ial1wp!uxOFaj9jniq&ixi2ATntOFjniq!cuxOFaixi2ATntOFjniq!uxOFaiiib&sz",
      "!cuxOFasz!uxOFaou&idjnSTROKES!wqaj9jniq%ixi2ATntOFjniq!cwqaixi2ATntOFjniq!wqasz!cwqasz",
      "!ZwtBAG MEMBERSHIP!DIAMETERf!ELECTRICh!HOUSE!UPkk!i8kk!PROJECTIVE!PERSPECTIVE!WAVYkq!icvn",
      "!iavn!icvb!iavb!ndiaCROP$icCROP!mdiaCROP$icCROP!kdk5f!jbs0!ARC!SEGMENT!SECTOR!tiRECORDER",
      "!POSITIONwc!VIEWDATAjb!PLACE OF INTERESTf!j7k5f!WATCH!HOURGLASS!mdicne$iane!ndicne$iane",
      "!mdi6qa!ndi6qa!FROWN!SMILE!UPkkq0idjnBARS!OPTION KEY!ERASE TOmvia!X IN Axqoi!KEYBOARD!p1lmja",
      "!o0lmja!ERASE TOmvic!BENZENEjq!CYLINDRICITY!ALL AROUND-PROFILE!SYMMETRY!TOTAL RUNOUT",
      "!DIMENSION ORIGIN!CONICAL TAPER!SLOPE!COUNTERBORE!COUNTERSINK!APL FUNCTIONALirI-BEAM",
      "&SQUISHsp&spji*DIVIDE*mj*JOT*jd&jdSTILE*JOT&rji2&xpi2&sprj*xp*k4*k6&i4VANE&iuVANE&spi4h*iuh",
      "&jdxp&i8m6ou&p2STILE&spi8u9*p2&i8m6JOT&jwVANE&spjwh&UPm6sz&DEL STILE&spUPu9*DEL&UPm6JOT",
      "&jrVANE&spjrh&QUOTEou&p2ou&mjou&JOTou&jdou&UP SHOE JOT&QUOTEsp&jdk9&spnj&UPm6kf&DELkf&k9kf",
      "&JOTkf&jdkf&i8SHOE STILE&icSHOE STILE&jokf&k6kf&k2i2&DELjo&ZILDE&STILEjo&thou&spk5ji*nx",
      "&i8u9jo&UPu9jo&nk&of&ms&naou&olou&nkou&msou&na!k5tyij!ialmajrxbh!SHOULDEREDj6oi!BELLir",
      "!ixkqaiwii!INSERTIONir!CONTINUOUS UNDERLINEir!DISCONTINUOUS UNDERLINEir!EMPHASISir",
      "!COMPOSITIONir!injbalbixkq!ENTERir!ALTERNATIVE KEYir!HELMir!lgjni2aNOTCH$jsi8",
      "!BROKENjdaNORTHWESTh!UNDOir!MONOSTABLEir!HYSTERESISir!OPEN-CIRCUIT-OUTPUT H-TYPEir$L-TYPEir",
      "!PASSIVE-PULL-DOWN-OUTPUTir!PASSIVE-PULL-UP-OUTPUTir!DIRECT CURRENTirdid!SOFTWARE-FUNCTIONir",
      "!APL FUNCTIONALirsp!DECIMALo2KEYir!PREVIOUS PAGE!NEXT PAGE!PRINT SCREENir!CLEAR SCREENir",
      "!icmaj3ip%wh%jtip!iamaj3ip%wh%jtip!icjbjaj3ne&wh&jtne!iajbjaj3ne&wh&jtne!icoojaj3ip&iwPIECE",
      "&jtip!oojawh!iaoojaj3ip&iwPIECE&jtip!qawh!jnkqwh!j3icORjtiaoojao6$iaORjticoojao6!SUMMATIONmd",
      "$nd!mdjbja!ndjbja&jgmdjbja!RADICALirnd!icixoikq!iaixoikq!jnSCAN LINE-1%LINE-3%LINE-7%LINE-9",
      "!DENTISTRYirjlixgmdia+ndia*ajd&i8gjnajd&UPgjnajd&ixajs&i8gjnajs&UPgjnajs&ixgpt&i8gjnapt",
      "&UPgjnapt&i8gjn&UPgjn&ixgmdic+ndic!jbFOOT!RETURNir!EJECTir!ixkqwh!METRICALlc$j9jglp$lpjgj9",
      "$j9jgidSHORTS$idSHORTSjgj9&JOINED$TRISEME$TETRASEME$PENTASEME!smGROUND!FUSE!mdma!ndma!mdooja",
      "!ndooja!mdqmo9ja!ndqmo9ja!inTRAPEZIUM!BENZENEjqajd!STRAIGHTNESS!FLATNESS!AC CURRENT",
      "!ELECTRICALqy!DECIMAL EXPONENTir!ilo0ihjs$p1ihjs$sbihjs$tfihjs$o0ihjsaixi2$p1ihjsaixi2",
      "$o0jsaihixi2!ALARM CLOCK!STOPWATCH!TIMER CLOCK!HOURGLASSaFLOWING SAND!iljyp1js%o0js%sbjs",
      "%tfjs!ihixi2!iljbmtki$jdmtRECORD!POWERir$ON-OFFir$ONir$SLEEPir!OBSERVER EYEir!irmtNULL",
      "%START OF HEADING*TEXT%ntOF TEXT*TRANSMISSION%ENQUIRY%ACKNOWLEDGE%BELL%BACKSPACE",
      "%jnTABULATION%kqFEED%ixTABULATION%dFEED%CARRIAGE RETURN%SHIFT OUT&IN%DATA LINK ESCAPE",
      "%DEVICE CONTROLig*id*ik*io%ruACKNOWLEDGE%SYNCHRONOUS IDLE%ntOF TRANSMISSIONk8%CANCEL%ntOFjy",
      "%SUBSTITUTE%ESCAPE%FILEo2%GROUPo2%RECORDo2%UNITo2%pp%DELETE!BLANKir!j6oi!irmtNEWLINE",
      "%DELETEdid%SUBSTITUTEdid"]⟩,
    ⟨0x2440, [
      "!OCRip$CHAIR$FORK$ksFORK$BELT BUCKLE$BOW TIE$BRANCH BANK IDENTIFICATION$AMOUNT OFty$mg",
      "$CUSTOMER ACCOUNTkx$ihxp!!!!!!!!!!!!!!!!!!!!!!lgjpig%id%ik%io%is%iy%i5%iz%i9$kxka%tq%si%wu",
      "%wv%ug%uu%wi%vk%ww%mf!zmjpig%id%ik%io%is%iy%i5%iz%i9$kxka%tq%si%wu%wv%ug%uu%wi%vk%ww%mf",
      "!jpiglqki$idlqki$iklqki$iolqki$islqki$iylqki$i5lqki$izlqki$i9lqki!kxkalqki$tqlqki$silqki",
      "$wulqki$wvlqki$uglqki$uulqki$wilqki$vklqki$wwlqki$mflqki!zmlocbA*B*C*D*E*F*G*H*I*J*K*L*M*N*O",
      "*P*Q*R*S*T*U*V*W*X*Y*Z!lgloebA*B*C*D*E*F*G*H*I*J*K*L*M*N*O*P*Q*R*S*T*U*V*W*X*Y*Z%cbA*B*C*D*E",
      "*F*G*H*I*J*K*L*M*N*O*P*Q*R*S*T*U*V*W*X*Y*Z$jpj1!rulgkxtq&si&wu&wv&ug&uu&wi&vk&ww&mf!ihlgjpig",
      "&id&ik&io&is&iy&i5&iz&i9%kxka!rulgjpj1!oiDRAWINGSjljn%ivjn%jlix%ivix%jllzmgjn%ivlzmgjn",
      "%jllzmgix%ivlzmgix%jludmgjn%ivudmgjn%jludmgix%ivudmgix%jli8gia%i8jlgiaiv&ivgiajl%ivi8gia",
      "%jli8gic%i8jlgiciv&ivgicjl%ivi8gic%jlUPgia%UPjlgiaiv&ivgiajl%ivUPgia%jlUPgic%UPjlgiciv",
      "&ivgicjl%ivUPgic%jlixgia%ixjlgiaiv%UPivgiai8jl%i8ivgiaUPjl%ixivgiajl%i8jlgiaUPiv%UPjlgiai8iv",
      "%ivixgia%jlixgic%ixjlgiciv%UPivgici8jl%i8ivgicUPjl%ixivgicjl%i8jlgicUPiv%UPjlgici8iv%ivixgic",
      "%jli8gjn%icivgiai8jl%iaivgici8jl%i8jlgjniv&ivgjnjl%iajlgici8iv%icjlgiai8iv%ivi8gjn%jlUPgjn",
      "%icivgiaUPjl%iaivgicUPjl%UPjlgjniv&ivgjnjl%iajlgicUPiv%icjlgiaUPiv%ivUPgjn%jlixgjn",
      "%icivgiaixjl%iaivgicixjl%ixjlgjniv%UPivgi8jnjl%i8ivgUPjnjl%ixivgjnjl%icUPivgiai8jl",
      "%iaUPivgici8jl%ici8ivgiaUPjl%iai8ivgicUPjl%i8jlgUPjniv%UPjlgi8jniv%iajlgicixiv%icjlgiaixiv",
      "%ivixgjn%jlihmgjn%ivihmgjn%jlihmgix%ivihmgix%ihjn&ix%i8kngiaih&ihgiakn%ihi8gia%i8kngicih",
      "&ihgickn%ihi8gic%UPkngiaih&ihgiakn%ihUPgia%UPkngicih&ihgickn%ihUPgic%ixkngiaih&ihgiakn",
      "%ihixgia%ixkngicih&ihgickn%ihixgic%i8kngjnih&ihgjnkn%ihi8gjn%UPkngjnih&ihgjnkn%ihUPgjn",
      "%ixkngjnih&ihgjnkn%ihixgjn%jlARCi8gia,ic*UPgic,ia&l1j3iaTOjtic+icTOjtia*l0&ic&UP&ia&i8%ivic",
      "&UP&ia&i8%jlicgivia&UPgivi8%ivicgjlia&UPgjli8!j3i6k8!jtigodk8%m9k8$ikrxk8$i6k8$isrxk8$ikrtk8",
      "$i5rxk8!lqk8!ici5rxk8$ikrtk8$isrxk8$i6k8$ikrxk8$igm9k8%odk8!iai6k8!jlr4!jyr4!DARKr4!j3igodk8",
      "!iaigodk8!rvjtic%ia$j3ic&gjticgjtia+ia*j3iagjtic;ia%ia&gjtic,gjtia!iljb!injb%autyu%xnilcjb",
      "!jbajnsq%ixsq%ORTHOGONAL CROSSHATCHsq%j3icTOjtiasq&iaTOjticsq%l1CROSSHATCHsq!ilcjb!incjb",
      "!ilxq!inxq!ilixxq!inixxq!ilPARALLELOGRAM!inPARALLELOGRAM!ilsbjs!insbjs!ilsbcjs!insbcjs",
      "!ilo0js!ino0js!ilo0cjs!ino0cjs!ilo0POINTER!ino0POINTER!iltfjs!intfjs!iltfcjs!intfcjs!ilp1js",
      "!inp1js!ilp1cjs!inp1cjs!ilp1POINTER!inp1POINTER!ilmj!inmj%xnilcmj!FISHEYE!s0!injd!mqjd",
      "!jdaixsq!BULLSEYE!iljd!jdaici6il%iai6il%jti6il%j3i6il&iarvil%ALL BUTj3icrvil!ici6iljd",
      "!iai6iljd!uysh$injd!j3i6uyinjd!jti6uyinjd!j3icrvCIRCULAR ARC$iarvCIRCULAR ARC",
      "!jtiarvCIRCULAR ARC$icrvCIRCULAR ARC!j3i6jd!jti6jd!iljtiajs%icjs$j3icjs%iajs!insh!jbaici6il",
      "%iai6il%j3icl1i6il%jtial1i6il!injbaixBISECTINGkq$sbjsaii!sbjsaici6il&iai6il!kmjd!injbaj3icrv",
      "&jticrv*iarv&j3iarv$jdaj3icrv&jticrv*iarv&j3iarv!j3icjs$iajs!jticjs!injyjb!iljyjb!injycjb",
      "!iljycjb!jtiajs!ilSUNaRAYS!CLOUD!UMBRELLA!SNOWMAN!COMET!ilk9!ink9!LIGHTNING!THUNDERSTORM!SUN",
      "!ASCENDING NODE!DESCENDING NODE!CONJUNCTION!OPPOSITION!ilti!inti!BALLOToi%aty&X!uh",
      "!UMBRELLAaRAIN DROPS!HOT BEVERAGE!inSHOGI PIECE!ilSHOGI PIECE!SHAMROCK!kdkyFLORALn1sh",
      "!ilicktjm$iaktjm!inicktjm$UPktjm$iaktjm$i8ktjm!SKULLgCROSSBONES!CAUTIONf!RADIOACTIVEf",
      "!BIOHAZARDf!CADUCEUS!ANKH!ORTHODOXl0!paof!l0OF LORRAINE%JERUSALEM!k9gyj!FARSIir!ADI SHAKTI",
      "!HAMMERgSICKLE!PEACEir!YINt1!TRIGRAMmtHEAVEN%LAKE%FIRE%THUNDER%WIND%s9%wx%sm!WHEEL OF DHARMA",
      "!inFROWNINGjc$q1jc!ilq1jc!inSUNaRAYS!v2m9oq!LASTm9oq!MERCURY!FEMALEf!sm!MALEf!JUPITER!SATURN",
      "!URANUS!NEPTUNE!PLUTO!ARIES!TAURUS!GEMINI!CANCER!LEO!VIRGO!LIBRA!SCORPIUS!SAGITTARIUS",
      "!CAPRICORN!AQUARIUS!PISCES!innfqv%rk%t4%tr%oa%t5!ilnfqv%rk%t4%tr%oa%t5$SPADE SUIT!inn1SUIT",
      "$mjSUIT!ilCLUB SUIT!inSPADE SUIT!iln1SUIT$mjSUIT!inCLUB SUIT!HOT SPRINGS!m9p3!odp3",
      "!BEAMEDodNOTES$ycNOTES!MUSIC FLATf$NATURALf$SHARPf!liSYRIACl0!kzSYRIACl0",
      "!UNIVERSAL RECYCLINGir!RECYCLINGirmtTYPE-1xt&TYPE-2xt&TYPE-3xt&TYPE-4xt&TYPE-5xt&TYPE-6xt",
      "&TYPE-7xt&GENERIC MATERIALS!ilUNIVERSAL RECYCLINGir!RECYCLED PAPERir",
      "!PARTIALLY-RECYCLED PAPERir!PERMANENT PAPERf!WHEELCHAIRir!DIE FACE-1$FACE-2$FACE-3$FACE-4",
      "$FACE-5$FACE-6!injdaiiia&idje!iljdainiiia&idinje!ykmtt1%YIN!DIGRAMmtGREATERt1%LESSER YIN&t1",
      "%GREATER YIN!int6!ilt6!HAMMERgPICK!ANCHOR!s1SWORDS!STAFF OF AESCULAPIUS!SCALES!ALEMBIC",
      "!FLOWER!GEAR!STAFF OF HERMES!ATOMir!FLEUR-DE-LIS!xuink9!ikLINES CONVERGINGia&ic!WARNINGf",
      "!kgVOLTAGEf!DOUBLED FEMALEf$MALEf!INTERLOCKED FEMALEgMALEf!MALEgFEMALEf$aiqf&gMALEgFEMALEf",
      "!ixMALEaiqf!jnMALEaiqf!jyinjd$iljd$cinjd!MARRIAGEir!DIVORCEir!UNMARRIED PARTNERSHIPir!COFFIN",
      "!FUNERAL URN!NEUTER!CERES!PALLAS!JUNO!VESTA!CHIRON!iloqLILITH!SEXTILE!SEMISEXTILE!QUINCUNX",
      "!SESQUIQUADRATE!SOCCERt7!BASEBALL!m1KEY!inDRAUGHTSp0%qv!ilDRAUGHTSp0%qv!SNOWMAN WITHOUT SNOW",
      "!SUN BEHIND CLOUD!RAIN!ilSNOWMAN!THUNDER CLOUDgRAIN!j7inSHOGI PIECE$ilSHOGI PIECE!inmjINjb",
      "!nhLANES!DISABLED CAR!OPHIUCHUS!PICK!CAR SLIDING!HELMETainl0!lgnhLANES!CHAINS!NO ENTRY",
      "!peONE-WAYicWAY TRAFFIC!ilTWO-WAYicWAY TRAFFIC!inTWO-WAYicWAY TRAFFIC!ilicLANE MERGE",
      "!inicLANE MERGE!DRIVE SLOWf!ivintfjs!icm3ENTRY!m1uh!x0l1INinjdINiljb!ilTRUCK",
      "!RESTRICTEDicENTRY-1%ENTRY-2!ASTRONOMICALirmtURANUS!ivjdaiqgidjeib!PENTAGRAM",
      "!RIGHT-HANDED INTERLACED PENTAGRAM!LEFT-HANDED INTERLACED PENTAGRAM!ksPENTAGRAM",
      "!ill0ON SHIELD!SHINTO SHRINE!CHURCH!CASTLE!HISTORIC SITE!GEAR WITHOUT HUB$aHANDLES",
      "!MAPirmtLIGHTHOUSE!wx!UMBRELLA ON GROUND!FOUNTAIN!t6IN HOLE!FERRY!SAILBOAT!jbioyu!SKIER",
      "!ICE SKATE!rgat7!TENT!xvBANKir!HEADSTONE GRAVEYARDir!FUEL PUMP!CUP ONiljb!int6ajniwilSTRIPE",
      "!ilSAFETYyl!j3BLADEyl!ilyl!jtBLADEyl!inyl$ivtyij!tiLOCATIONf!TAPE DRIVE!xw!vl!omFIST$nm",
      "!VICTORYnm!WRITINGnm!jtiaPENCIL!PENCIL!j3iaPENCIL!inNIB!ilNIB!tyij!ivtyij!t9X!ivt9X!BALLOT X",
      "!ivBALLOT X!xuowl0!ivowl0!j6lbl0!ivj6lbl0!lol0!swinlol0!xulol0!MALTESEl0!k9OF DAVID!ioxkly",
      "$BALLOON-SPOKEDly!ivioBALLOON-SPOKEDly!ioCLUB-SPOKEDly!iliom0k9!iniom0k9!SPARKLES",
      "!STRESSxuink9!lgink9!j6lbilk9!illbink9!xuilk9!ivxuilk9!vmk9!swink9!ivly!j6lbly!izqply$m0ilk9",
      "%vmk9!iym0ilk9!izm0RECTILINEARilk9!ivizm0RECTILINEARilk9!sim0ilk9!uum0ly!xkly!j6lbxkly",
      "!ivxkly!iyPETALLEDilginFLORETTE!ilFLORETTE!inFLORETTE!izPETALLEDxuilFLORETTE!lgj6lbizm0k9",
      "!ivxkvmly!SNOWFLAKE!TIGHT TRIFOLIATE SNOWFLAKE!ivCHEVRON SNOWFLAKE!SPARKLE!ivSPARKLE",
      "!BALLOON-SPOKEDly!izxkPROPELLERly!ivizxkPROPELLERly!l0ij!swinjd!rum1l0ij",
      "!jtiaDROP-SHADOWEDinjb!j3iaDROP-SHADOWEDinjb!jtiaswinjb!j3iaswinjb!ilnxijlk!innxijlk$okijlk",
      "!ilmjqqinX!ivokijir!jlixi2!jyixi2!ivixi2$knj7k2noijlk%k2noijlk$ihj7k2noijlk%k2noijlk",
      "$jvknk2noijlk%ihk2noijlk!ujSTEMzeflk!ivokijlk$n1okijlk$iln1!kyiviln1sh!FLORALn1!kyFLORALn1sh",
      "!jyicmalk$iamalk$FLATTENEDicmalk%iamalk$p1lmjalk$o0lmjalk!ivp1lmnoijlk$o0lmnoijlk$p1lmjalk",
      "$o0lmjalk!jlicqmo9jalk$iaqmo9jalk!jyicoojalk$iaoojalk!DINGBATrulgjpig*id*ik*io*is*iy*i5*iz",
      "*i9&kxka$lgpcjpig*id*ik*io*is*iy*i5*iz*i9&kxka$rulgpcjpig+id+ik+io+is+iy+i5+iz+i9*kxka",
      "!ivWIDE-HEADEDiuh$i3f$qqf$wmf$l9kzh$iuh$lukzh!DRAFTINGs6iuh!ivROUND-TIPPEDiuh!kliuh!ivkliuh",
      "!s4kliuh!ivs4kliuh!iliuh!THREE-D TOP-LIGHTEDiukk$BOTTOM-LIGHTEDiukk!iliukk!ivilujjrgiuh",
      "&jwgiuh!SQUATiliuh!ivCONCAVE-POINTEDiliuh!RIGHT-SHADEDiniuh!LEFT-SHADEDiniuh",
      "!BACK-TILTEDswiniuh!FRONT-TILTEDswiniuh!ivjtzjiniuh$j3zjiniuh!vojtzjiniuh!ooqu!voj3zjiniuh",
      "!lgiviniuh!WHITE-FEATHEREDiuh!BLACK-FEATHEREDl9kzh$iuh$lukzh!ivBLACK-FEATHEREDl9kzh%iuh",
      "%lukzh!TEARDROP-BARBEDiuh!ivTEARDROP-SHANKEDiuh!WEDGE-TAILEDiuh!ivWEDGE-TAILEDiuh",
      "!OPEN-OUTLINEDiuh!ihooqu!ikDIMENSIONALlm!injsxncinjs!PERPENDICULAR!j6on$o4",
      "!icS-SHAPED BAG DELIMITER!iaS-SHAPED BAG DELIMITER!ORaiiqe!pwo5PRECEDINGon!o4PRECEDINGo5",
      "!ixi2ajniq!x4s3l1!j9wm!x4x0l1!m1syg%OR!inmjaw3ii!gaii!uxOF OPENINGjw!jtianeaii!j3icneaii",
      "!icOUTER JOIN!iaOUTER JOIN!lqOUTER JOIN!kmUPm6$i8m6!icgiaihwg&m6$MULTIMAP!j9iam6$icm6",
      "!UPm6ajdib!s0DIVIDED BYjnRULE!inCONCAVE-SIDEDmj&ai4TICK*iuTICK$jbai4TICK&iuTICK!x4icinjbja",
      "$iainjbja$iclmja$ialmja$icihlmja$iaihlmja$icinqmo9ja$iainqmo9ja$icFLATTENEDma$iaFLATTENEDma",
      "!jwudh!jrudh!qjGAPPEDjdh!ssGAPPEDjdh!iahalgi3!j9i4h$iuh$iciah$i4ihh$iuihh$iciaihh$i4hnli2",
      "$iuhnli2$i4ihhnli2$iuihhnli2%SQUIGGLEh!BRAILLE PATTERN BLANK%DOTS-1%DOTS-2%DOTS-12%DOTS-3",
      "%DOTS-13%DOTS-23%DOTS-123%DOTS-4%DOTS-14%DOTS-24%DOTS-124%DOTS-34%DOTS-134%DOTS-234",
      "%DOTS-1234%DOTS-5%DOTS-15%DOTS-25%DOTS-125%DOTS-35%DOTS-135%DOTS-235%DOTS-1235%DOTS-45",
      "%DOTS-145%DOTS-245%DOTS-1245%DOTS-345%DOTS-1345%DOTS-2345%DOTS-12345%DOTS-6%DOTS-16%DOTS-26",
      "%DOTS-126%DOTS-36%DOTS-136%DOTS-236%DOTS-1236%DOTS-46%DOTS-146%DOTS-246%DOTS-1246%DOTS-346",
      "%DOTS-1346%DOTS-2346%DOTS-12346%DOTS-56%DOTS-156%DOTS-256%DOTS-1256%DOTS-356%DOTS-1356",
      "%DOTS-2356%DOTS-12356%DOTS-456%DOTS-1456%DOTS-2456%DOTS-12456%DOTS-3456%DOTS-13456",
      "%DOTS-23456%DOTS-123456%DOTS-7%DOTS-17%DOTS-27%DOTS-127%DOTS-37%DOTS-137%DOTS-237%DOTS-1237",
      "%DOTS-47%DOTS-147%DOTS-247%DOTS-1247%DOTS-347%DOTS-1347%DOTS-2347%DOTS-12347%DOTS-57",
      "%DOTS-157%DOTS-257%DOTS-1257%DOTS-357%DOTS-1357%DOTS-2357%DOTS-12357%DOTS-457%DOTS-1457",
      "%DOTS-2457%DOTS-12457%DOTS-3457%DOTS-13457%DOTS-23457%DOTS-123457%DOTS-67%DOTS-167%DOTS-267",
      "%DOTS-1267%DOTS-367%DOTS-1367%DOTS-2367%DOTS-12367%DOTS-467%DOTS-1467%DOTS-2467%DOTS-12467",
      "%DOTS-3467%DOTS-13467%DOTS-23467%DOTS-123467%DOTS-567%DOTS-1567%DOTS-2567%DOTS-12567",
      "%DOTS-3567%DOTS-13567%DOTS-23567%DOTS-123567%DOTS-4567%DOTS-14567%DOTS-24567%DOTS-124567",
      "%DOTS-34567%DOTS-134567%DOTS-234567%DOTS-1234567%DOTS-8%DOTS-18%DOTS-28%DOTS-128%DOTS-38",
      "%DOTS-138%DOTS-238%DOTS-1238%DOTS-48%DOTS-148%DOTS-248%DOTS-1248%DOTS-348%DOTS-1348",
      "%DOTS-2348%DOTS-12348%DOTS-58%DOTS-158%DOTS-258%DOTS-1258%DOTS-358%DOTS-1358%DOTS-2358",
      "%DOTS-12358%DOTS-458%DOTS-1458%DOTS-2458%DOTS-12458%DOTS-3458%DOTS-13458%DOTS-23458",
      "%DOTS-123458%DOTS-68%DOTS-168%DOTS-268%DOTS-1268%DOTS-368%DOTS-1368%DOTS-2368%DOTS-12368",
      "%DOTS-468%DOTS-1468%DOTS-2468%DOTS-12468%DOTS-3468%DOTS-13468%DOTS-23468%DOTS-123468",
      "%DOTS-568%DOTS-1568%DOTS-2568%DOTS-12568%DOTS-3568%DOTS-13568%DOTS-23568%DOTS-123568",
      "%DOTS-4568%DOTS-14568%DOTS-24568%DOTS-124568%DOTS-34568%DOTS-134568%DOTS-234568%DOTS-1234568",
      "%DOTS-78%DOTS-178%DOTS-278%DOTS-1278%DOTS-378%DOTS-1378%DOTS-2378%DOTS-12378%DOTS-478",
      "%DOTS-1478%DOTS-2478%DOTS-12478%DOTS-3478%DOTS-13478%DOTS-23478%DOTS-123478%DOTS-578",
      "%DOTS-1578%DOTS-2578%DOTS-12578%DOTS-3578%DOTS-13578%DOTS-23578%DOTS-123578%DOTS-4578",
      "%DOTS-14578%DOTS-24578%DOTS-124578%DOTS-34578%DOTS-134578%DOTS-234578%DOTS-1234578%DOTS-678",
      "%DOTS-1678%DOTS-2678%DOTS-12678%DOTS-3678%DOTS-13678%DOTS-23678%DOTS-123678%DOTS-4678",
      "%DOTS-14678%DOTS-24678%DOTS-124678%DOTS-34678%DOTS-134678%DOTS-234678%DOTS-1234678%DOTS-5678",
      "%DOTS-15678%DOTS-25678%DOTS-125678%DOTS-35678%DOTS-135678%DOTS-235678%DOTS-1235678",
      "%DOTS-45678%DOTS-145678%DOTS-245678%DOTS-1245678%DOTS-345678%DOTS-1345678%DOTS-2345678",
      "%DOTS-12345678!iuuchaixiq*ihixiq!i4ihhaixiq!iuihhaixiq!iciaihhaixiq!iuuchnli2!i4ihhnli2",
      "!iuihhnli2!jrhajniq!jwhajniq$lzh!jrlzh!i4ihmgh!iuihmgh!i4lzmgh!iulzmgh$uclzmgh$hamqSTEM",
      "!jwhTOi2!jrhTOi2!iuhaleaixiq+ihixiq$uchale+aixiq,ihixiq!i4ARROW-TAIL!iuARROW-TAIL",
      "!i4ihARROW-TAIL!iuihARROW-TAIL!i4hTOilmj!iuhTOilmj!i4hnli2TOilmj!iuhnli2TOilmj!luligl9kzh",
      "$kzgl9lih$lihaip$kzhaip!l9kzhaip$lihaip!lulihglukzh$kzhgl9kzh!l9kzhgl9lih$lihglulih",
      "!s3l1nhx0l1!x0l1nhs3l1!l9kzhnhlukzh!lukzhnhl9kzh!x0l1nhlukzh!s3l1nhl9kzh!lukzhnhlulih",
      "$lihnhlukzh!pthktDIRECTLYia!hktiuTHEN CURVINGjw+jr%jrTHEN CURVINGi4+iu!RIGHT-SIDE ARCssh",
      "!LEFT-SIDE ARCqjh!mdARCqjh!ndARCqjh!mdARCsshaqq%qjhai3!jtiaSEMICIRCULARssh$icSEMICIRCULARqjh",
      "!qjm3jdh!ssm3jdh!iuhiblpi4h!i4hiblpiuh!lpiuhibi4h!iuhai3ie!i4hai3ie!iuhsgX!iciahsgcjd",
      "!jwuchnlcjd!icjuUPiajui8ld%i8iajuUPld!UPjuiai8juicld%ici8juiald!icjuUPiajuUPld",
      "!UPjuiai8juiald!icjui8iajui8ld!UPjuici8juicld!i4ldajuUP TOi2!iuldajuUP TOi2!jwldajuiaTOi2",
      "!jrldajuiaTOi2!i4ldajui8TOi2!iuldajui8TOi2!jwldajuicTOi2!jrldajuicTOi2!i4ldajuUPnli2",
      "!iuldajuUPnli2!jwldajuianli2!jrldajuianli2!i4ldajui8nli2!iuldajui8nli2!jwldajuicnli2",
      "!jrldajuicnli2!i4ldajuUPibi4ldajui8!jwldajuicu5jwldajuia!iuldajuUPibiuldajui8",
      "!jrldajuicu5jrldajuia!i4ldajuUPibiuldajuUP*i8ibiuldajui8!iuldajuUPibi4ldajuUP*i8ibi4ldajui8",
      "!i4ldajuUPibj9mg*i8iej9mg!iuldajuUPibj9mg*i8iej9mg!jwldajuicu5jrldajuia!jrldajuicu5jwldajuia",
      "!iaihhautqi!m2fibiuh!jol6ibiuh!i4hibjol6!iuhibjol6&rdjiTO!k4ibi4h!i4hsgk4!k6ibiuh!onibiuh",
      "!i4hsgon!o4ibi4h!icFISHle!iaFISHle!UP FISHle!i8FISHle!lzixi2DELIMITER!ZwtSPOT%TYPEnj",
      "!icinooja!iainooja!icinma!iainma!Zwticv3ja%iav3ja%icBINDINGja%iaBINDINGja!icjbjaaou",
      "!iajbjaaou!icjbjaaTICK INmdne!iajbjaaTICK INndne!icjbjaaTICK INndne!iajbjaaTICK INmdne",
      "!iclmjaaii!ialmjaaii!icARCk4ja!iaARCk6ja!ihicARCk6ja$iaARCk4ja!icilqmo9ja!iailqmo9ja!mqFENCE",
      "!ixxbkq!MEASUREDlmOPENINGic!ialmplajb!MEASUREDialmaii!lmaSqe!jxlm!SPHERICALlmOPENINGic&UP",
      "!j7lm!kdlm!lmaou!kdlmaou!rwlmOPENING UP&i8!MEASUREDlmaj6ARM ENDING INhktUPgia>ic<i8gia>ic",
      "<iagUP<icgUP<iagi8<icgi8!kdEMPTY SET!EMPTY SETasz&cjdib&iahib&ichib!jdajni2!lgixi2$wr$pwo5",
      "$PERPENDICULAR!jdDIVIDED BYjni2gmdi6DIVIDED BYixi2$aSUPERIMPOSED X",
      "!lgANTICLOCKWISE-ROTATEDwmf!UPhsgjd!lginsh$sh$k4$k6!jdacjdTOmvia%idjnSTROKES TOmvia!m1s3l1rj",
      "$x0l1rj$ly$cjd$jb!idJOINED SQUARES!jsaiiib%ou!S INjs!jsaSERIFS ATnd!iajsibicjs!icjsu5ixi2",
      "!ixi2u5iajs!BOWTIEaici6il%iai6il!ilBOWTIE!i0aici6il%iai6il!inHOURGLASS!ilHOURGLASS",
      "!icWIGGLY FENCE!iaWIGGLY FENCE!icihWIGGLY FENCE!iaihWIGGLY FENCE!INCOMPLETEyi!TIEjgyi",
      "!yiNEGATEDaixi2!DOUBLE-ENDED MULTIMAP!jbaCONTOURED OUTLINE!INCREASES AS!SHUFFLEsx!m2fgpmwr",
      "+ajoib!IDENTICAL TOgpmwr!GLEICH STARK!THERMODYNAMIC!tfjsaici6il&iai6il!ilmjai8h$s0!injdai8h",
      "!iljdai8h!ERROR-BARREDinjb$iljb$inmj$ilmj$injd$iljd!RULE-DELAYED!pwo5l6!o5asz!pwo5ajniq",
      "!BIGo5$pwo5!ihi3!lzi3!p1ujlmja!o0ujlmja!TINY!MINY!N-ARYlgiil6%i3l6%i0l6$q7l6aii*i3$jbqyl6",
      "%q7l6!idsygl6%ORl6!N-ARYi0l6!MODULOidSUM!SUMMATIONaqa!udqal6!FINITE PARTqa!qaaihiq",
      "$AVERAGEarj!CIRCULATION FUNCTION!qjINTEGRATION!kqINTEGRATIONaRECTANGULAR PATH AROUND POLE",
      "&SEMICIRCULAR PATH AROUND POLE%k5INCLUDINGmvPOLE!qaAROUND As6l6!QUATERNIONqal6!qaai4haip%i0f",
      "%qy%q7%sz%ou!JOIN!kmicjsl6!ZwtSCHEMA COMPOSITION&PIPING&PROJECTION!i3facjdib&kbmnib&joib",
      "&iiie&joie&xoid&iljs!qqfak2ib&iiie&x0je&s3je!i3fINici6jd&iai6jd!VECTOR ORl0sx!t9faiiib&ou",
      "!zdsxandm3!SMASHsx!t9fINici6jd&iai6jd!lgt9fakbmn!t9fINihjd!lgwmf!i3fINjs!qqfINjs!t9fINjs",
      "!INTERIORsx!RIGHTHAND INTERIORsx!ZwtRELATIONAL COMPOSITION!AMALGAMATION OR COPRODUCT!qyaii",
      "!q7aqqf%sz!qyasz%syg!q7asyOR$ibqy!qyibq7!q7ibi2ibqy!qyibi2ibq7!q7u5gJOINEDaq7!qyu5gJOINEDaqy",
      "!m3q7aSERIFS$qyaSERIFS!ihjbqy%q7!m3q7aSERIFSgSMASHsx!sygaiiib$ORaiiib!ihsyg%OR",
      "!idINTERSECTINGsyg&OR!SLOPINGkmOR%g!syOR OVERLAPPINGsyg$gaiwSTEM$ORaiwSTEM$gajnmg$ORajnmg",
      "$gaihsz&ou&ihou!cVEEaou!syORaihsz*ou!ZwtDOMAIN ANTIRESTRICTION%RANGE ANTIRESTRICTION",
      "!m2faiiie!IDENTICALaiiib!lzjni2aihixiq*lzixiq!jol6aiiib&s3je!x1qqx1!CONGRUENTaiiib!m2aly",
      "!rdjiTOakbmn!y7jiORjiTO!m2fibi3f!i3fibm2f!m2fibjol6!ihnjji!idCONSECUTIVEm2SIGNS",
      "!ikCONSECUTIVEm2SIGNS!m2faidjeibgidjeie!rsaiojeib!k4ajdqe!k6ajdqe!k4anxijib!k6anxijib",
      "!k4ORpmjiTO!k6ORpmjiTO!k4ORpmjiTOaiiqe!k6ORpmjiTOaiiqe!k4ORpmjiTOaiiib!k6ORpmjiTOaiiib",
      "!k4ORpmjiTOaiiibia!k6ORpmjiTOaiiibic!k4ORz3!k6ORz3!k4gx9k5jiTO!k6gx9k5jiTO!k4gk5z3!k6gk5z3",
      "!k4ibyajiibk6!k6ibyajiibk4!k4ibx1ORji!k6ibx1ORji!k4ibx1ibk6!k6ibx1ibk4!k4ibk6ibyaji",
      "!k6ibk4ibyaji!k4ibpmjiibk6ibpmji!k6ibpmjiibk4ibpmji!pmjiTO ORk4*k6*k4aiiqe*k6aiiqe",
      "!yajiTO ORk4*k6$pmjiTO ORk4+k6!x1ORk4%k6$ibk4ibm2f%k6ibm2f!ihNESTEDk4%k6%k4aou",
      "!k6OVERLAPPINGk4$u5k4!k4m3BYqt!k6m3BYqt!k4m3BYqtibpmji!k6m3BYqtibpmji!SMALLER THAN",
      "!LARGER THAN!SMALLER THAN ORjiTO!LARGER THAN ORjiTO!m2faBUMPYib!suibx9m2f!svibx9m2f",
      "!suibx9k5jiTO!svibx9k5jiTO!suibm2f!svibm2f!suibk5jiTO!svibk5jiTO!suibrdjiTO!svibrdjiTO",
      "!suibk5rdjiTO!svibk5rdjiTO!ihsu$sv!onaii!o4aii!onai3fie!o4ai3fie!onat9fie!o4at9fie",
      "!onOF ORjiTOaiiib!o4OF ORjiTOaiiib!onOFibm2f!o4OFibm2f!onOFibjol6!o4OFibjol6!onOFibrdjiTO",
      "!o4OFibrdjiTO!onOFibk5jiTO!o4OFibk5jiTO!jbicj6oil6$iaj6oil6!m3on$o4$onORjiTO$o4ORjiTO!onibo4",
      "!o4ibon!onibon!o4ibo4$u5on%gJOINED BYmgaon!uxOF OPENINGjr!PITCHFORKaTEEmd!TRANSVERSALqy",
      "!FORKING!NONFORKING!lpicm6$i8m6$UPm6!PERPENDICULARaS!ixi2lziawg!ihixi2icwg!ixi2ihicwg",
      "!ihixi2ihicwg!j9mgnlicMEMBER OFihix!lpi8m6asz$UPm6aou&iblpi8m6!ihi8m6$UPm6$iqk5f!kdihiqk5f",
      "!DOESk5DIVIDEakdNEGATIONrj!ixkqajdib*ie!i8m6ajdie!wrajniq%jol6!lzixi2BINARY RELATION&ajniq",
      "$njl6$NESTEDk4%k6!yapmk4ORjiTO%k6ORjiTO!lzo5BINARY RELATION!kmlzixi2l6!iho5l6!inixi2",
      "!N-ARYinixi2!lukzinh$liinh!l9kzinh$liinh!iciainh!i4ilh!jwilh!jrilh!lukzilh$liilh!l9kzilh",
      "$liilh!iciailh!UPi8ilh!iuhaTIPjr*jw!i4haTIPjr*jw!jbamdi6il%ndi6il%j3ial1i6il%jticl1i6il",
      "!mjaici6il%iai6il%mdi6il%ndi6il!mqjb!ilkmjb!inkmjb!ilobcjb!inobcjb!ilPENTAGON!inPENTAGON",
      "$HEXAGON!ilHEXAGON!jnilHEXAGON!ilkmjd$jymj!injymj!iljys0!injys0!ilcmj%s0!incs0!iljnELLIPSE",
      "!injnELLIPSE!ilixELLIPSE!inixELLIPSE!ichacjd!iki4rf!ichalgi3!j9i4SQUIGGLEh!i4uchaixiq*ihixiq",
      "&nli2%lzmgh$hamqSTEM&leaixiq+ihixiq$uchale+aixiq,ihixiq$hsgX!pthktDIRECTLYic!m2fibi4h",
      "!pwjol6ibi4h!i4hibpwrdjiTO!iuhsgk6&o4!i4udh!iuudh!pwjol6ibiuh!iuhibpwrdjiTO!jol6ibi4h",
      "!i4hibrdjiTO&pwjol6!iuhibpwjol6!jrklxbh!lppmluh$BACKSLANTEDl9h!injyk9!ilck9!inck9",
      "!ilo0PENTAGON!ino0PENTAGON!ivkmjd$OVALaOVALqe$jdajdqe$jd$lguh!pmluhaHOOKEDqi",
      "!BACKSLANTEDl9haHOOKEDle!pmluhajnle!BACKSLANTEDl9hajnle!nshktjrTHENlukz!lpnshktjrTHENlukz",
      "!i4klh!jwklh!iuklh!jrklh!iciaklh!UPi8klh!luliklh$kzklh!l9kzklh$liklh!i4kls4h!jwkls4h!iukls4h",
      "!jrkls4h!ssklj6jdh!qjklj6jdh!i4klhTOi2!jwklhTOi2!iuklhTOi2!jrklhTOi2!!!luliklhTOi2$kzklhTOi2",
      "!l9kzklhTOi2$liklhTOi2!i4klhaihjniq!jwklhaihjniq!iuklhaihjniq!jrklhaihjniq!jnTAB KEY",
      "!ixTAB KEY!i4klhjgiuklh!jwklhi4OFjrklh!iuklhjgi4klh!jrklhi4OFjwklh!i4klxfrf!jwklxfrf",
      "!iuklxfrf!jrklxfrf!i4illginh!jwillginh!iuillginh!jrillginh!qjkliaU-SHAPEDh%ndU-SHAPEDh",
      "%icU-SHAPEDh%mdU-SHAPEDh!RETURNic$ia!NEWLINEic$ia!ionerfCIRCLINGqj!iuilh!",
      "!irmtTYPE A ELECTRONICS!THREE-D TOP-LIGHTEDi4o1kk$RIGHT-LIGHTEDjwo1kk$TOP-LIGHTEDiuo1kk",
      "$LEFT-LIGHTEDjro1kk!ili4o1kk$jwo1kk$iuo1kk$jro1kk!jrklhaj9TIPi4,iu!jwklhaj9TIPi4,iu",
      "!i4klhaj9TIPjw!iuklhaj9TIPjw!i4klhaj9TIPjr!iuklhaj9TIPjr!ilujjrgi4h*iuh%jwgi4h*iuh%i4gjwh",
      "%iugjwh%i4gjrh%iugjrh!RIBBONhi8ic&ia%UPic&ia%icUP%iaUP%ici8%iai8!jwinhnli2ajni2!UPkkIN Axqoi",
      "!OVERLAPPINGinSQUARES%gilSQUARES$ilSQUARES!BALLOToiajlX!lgX$n2X!iljbw3$mjw3!j7ilPENTAGON",
      "!jnilOCTAGON!ilOCTAGON$jysbjsw3%tfjsw3%p1jsw3%o0jsw3!NEPTUNEdid!mdi6iljd!ndi6iljd",
      "!jliom0ilCUSP!kyjliom0ilCUSP!iniom0CUSP!kyiniom0CUSP!jbPOSITIONwc!UNCERTAINTYf!GROUPij",
      "!PLUTOdid%ik%io%is!TRANSPLUTO!PROSERPINA!ASTRAEA!HYGIEA!PHOLUS!NESSUS!inoqSELENA!ilmjONl0",
      "!TRUEjloqARTA!CUPIDO!HADES!ZEUS!KRONOS!APOLLON!ADMETOS!VULCANUS!POSEIDON!ici6ilk9!iai6ilk9",
      "!k9aici6il%iai6il!i4uchajsARROWHEADS!jwuchajsARROWHEADS!iuuchajsARROWHEADS",
      "!jruchajsARROWHEADS!ERISdig%id!SEDNA!RUSSIAN ASTROLOGICALirVIGINTILE&NOVILE&QUINTILE",
      "&BINOVILE&SENTAGON&TREDECILE!m2fayiie!UNITEDir!SEPARATEDir!DOUBLEDir!PASSEDir!kdialm",
      "!HELLSCHREIBER PAUSEir!GLAGOLITICebAZU&BUKY&VEDE&GLAGOLI&DOBRO&YESTU&ZHIVETE&DZELO&ZEMLJA",
      "&IZHE&itIZHE&I&DJERVI&KAKO&LJUDIJE&MYSLITE&NASHI&ONU&POKOJI&RITSI&SLOVO&TVRIDO&UKU&FRITU",
      "&HERU&OTU&PE&SHTA&TSI&CHRIVI&kj&YERU&YERI&YATI&SPIDERY HA&YU&cn3+ale&YO&yvcn3&BIGn3&yvBIGn3",
      "&FITA&ys&SHTAPIC&TROKUTASTI A&LATINATE MYSLITE&CAUDATE CHRIVI$cbAZU&BUKY&VEDE&GLAGOLI&DOBRO",
      "&YESTU&ZHIVETE&DZELO&ZEMLJA&IZHE&itIZHE&I&DJERVI&KAKO&LJUDIJE&MYSLITE&NASHI&ONU&POKOJI&RITSI",
      "&SLOVO&TVRIDO&UKU&FRITU&HERU&OTU&PE&SHTA&TSI&CHRIVI&kj&YERU&YERI&YATI&SPIDERY HA&YU&cn3+ale",
      "&YO&yvcn3&BIGn3&yvBIGn3&FITA&ys&SHTAPIC&TROKUTASTI A&LATINATE MYSLITE&CAUDATE CHRIVI",
      "!loebLaihi2$cbLaihi2$ebLaiwjo&Paiq&Rale$cbAaiq&Tal1iq$ebHami$cbHami$ebKami$cbKami$ebZami",
      "$cbZami$ebna&Maip&j7A*na$cbVaiaip$ebWaip$cbWaip&Vaps$ebi6H$cbi6H&TAILLESSoz&EaNOTCH&j7Rale",
      "&Oajvjqqe$bcej7E$xocbJ!npbeV!loebSaSWASHle&ZaSWASHle!ovebALFA$cbALFA$ebVIDA$cbVIDA$ebpq$cbpq",
      "$ebDALDA$cbDALDA$ebEIE$cbEIE$ebSOU$cbSOU$ebZATA$cbZATA$ebHATE$cbHATE$ebTHETHE$cbTHETHE",
      "$ebIAUDA$cbIAUDA$ebKAPA$cbKAPA$ebLAULA$cbLAULA$ebMI$cbMI$ebNI$cbNI$ebKSI$cbKSI$ebO$cbO$ebPI",
      "$cbPI$ebRO$cbRO$ebSIMA$cbSIMA$ebTAU$cbTAU$ebUA$cbUA$ebFI$cbFI$ebKHI$cbKHI$ebPSI$cbPSI$ebOOU",
      "$cbOOU$ebwjjj$cbwjjj$ebljovnc$cbljovnc$ebvdEIE$cbvdEIE$ebwjKAPA$cbwjKAPA$ebwjNI$cbwjNI",
      "$ebvdNI$cbvdNI$ebljovOOU$cbljovOOU$ebSAMPI$cbSAMPI$ebs1SHEI$cbs1SHEI$ebljovSHEI$cbljovSHEI",
      "$ebljovESH$cbljovESH$ebAKHMIMIC KHEI$cbAKHMIMIC KHEI$ebwjHORI$cbwjHORI$ebljovHORI$cbljovHORI",
      "$ebljovHA$cbljovHA$ebL-SHAPED HA$cbL-SHAPED HA$ebljovHEI$cbljovHEI$ebljovHAT$cbljovHAT",
      "$ebljovGANGIA$cbljovGANGIA$ebljovDJA$cbljovDJA$ebljovSHIMA$cbljovSHIMA$ebljvwSHIMA",
      "$cbljvwSHIMA$ebljvwNGI$cbljvwNGI$ebljvwNYI$cbljvwNYI$ebljvwWAU$cbljvwWAU$irKAI%MI RO%PI RO",
      "%STAUROS%TAU RO%KHI RO%SHIMA SIMA$ebvdSHEI$cbvdSHEI$ebvdGANGIA$cbvdGANGIA$mmNIib",
      "%SPIRITUS ASPER&LENIS$ebBOHAIRIC KHEI$cbBOHAIRIC KHEI!!!!!!ovljvwlqki&DIRECTnxij",
      "&INDIRECTnxij&VERSEyw$p9igi6$lqki$MORPHOLOGICALyw!GEORGIANcbAN&BAN&GAN&DON&EN&VIN&ZEN&TAN&IN",
      "&KAN&LAS&p0&NAR&ON&PAR&ZHAR&RAE&SAN&TAR&UN&PHAR&KHAR&GHAN&QAR&nr&CHIN&CAN&JIL&CIL&CHAR&XAN",
      "&JHAN&HAE&HE&HIE&WE&HAR&HOE!!GEORGIANcbYN!!!!!!GEORGIANcbAEN!!!TIFINAGHbYA%YAB%YABH%YAG",
      "%YAGHH%BERBER ACADEMY YAJ%YAJ%YAD%YADH%YADD%YADDH%YEY%YAF%YAK%TUAREG YAK%YAKHH%YAH",
      "%BERBER ACADEMY YAH%TUAREG YAH%YAHH%YAA%YAKH%TUAREG YAKH%YAQ%TUAREG YAQ%YI%YAZH%AHAGGAR YAZH",
      "%TUAREG YAZH%YAL%YAM%YAN%TUAREG YAGN&t1%YAP%YU%YAR%YARR%YAGH%TUAREG YAGH%AYER YAGH%YAS%YASS",
      "%YASH%YAT%YATH%YACH%YATT%YAV%YAW%YAY%YAZ%TAWELLEMET YAZ%YAZZ%YE%YO!!!!!!!",
      "!TIFINAGHnpbLABIALIZATIONij$o2ij!!!!!!!!!!!!!!!TIFINAGHpdJOINER!ETHIOPICrcLOA%MOA%ROA%SOA",
      "%SHOA%BOA%TOA%COA%NOA%NYOA%n7OA%ZOA%DOA%DDOA%JOA%THOA%CHOA%PHOA%POA%GGWA%GGWI%GGWEE%GGWE!!!!",
      "!!!!!!ETHIOPICrcml%SSU%SSI%SSAA%SSEE%SSE%SSO!!ETHIOPICrcCCA%CCU%CCI%CCAA%CCEE%CCE%CCO!",
      "!ETHIOPICrcZZA%ZZU%ZZI%ZZAA%ZZEE%ZZE%ZZO!!ETHIOPICrcCCHA%CCHU%CCHI%CCHAA%CCHEE%CCHE%CCHO!",
      "!ETHIOPICrcQYA%QYU%QYI%QYAA%QYEE%QYE%QYO!!ETHIOPICrcKYA%KYU%KYI%KYAA%KYEE%KYE%KYO!",
      "!ETHIOPICrcXYA%XYU%XYI%XYAA%XYEE%XYE%XYO!!ETHIOPICrcGYA%GYU%GYI%GYAA%GYEE%GYE%GYO!!mmsdbBE",
      "&VE&GHE&DE&ZHE&ZE&KA&EL&EM&EN&O&PE&ER&ES&TE&HA&TSE&pb&kj&SHCHA&FITA&ES-TE&A&IE&DJERV",
      "&MONOGRAPH UK&YAT&YU&raA&lan3&BIGn3&raBIGn3!ialmx6xc%mqx6xc!icx6ja!iax6ja!icmqx6ja!iamqx6ja",
      "!omINTERPOLATIONxc$mqINTERPOLATIONxc!mqTRANSPOSITIONxc!icTRANSPOSITIONja!iaTRANSPOSITIONja",
      "!omjb!icomOMISSIONja!iaomOMISSIONja!EDITORIAL CORONIS!PARAGRAPHOS!FORKED PARAGRAPHOS",
      "!kdFORKED PARAGRAPHOS!HYPODIASTOLE!mqOBELOS!jrANCORA!jwANCORA!mqo0lm!ihrwtn!ksy9!PALM BRANCH",
      "!tnakf!joajqib!icjvPARAPHRASEja!iajvPARAPHRASEja!joaiiib&ie!icixi2aQUILL!iaixi2aQUILL",
      "!mdici6ja$iai6ja!ndici6ja$iai6ja!icvjUja!iavjUja!icihma!iaihma!idjejgigiil8!igiijgidjel8",
      "!m1ioiil8!isiiij!kdnxij!ixjo!jqs6!r7o2iwii!j7k2!omii$k2!j7th!DAGGERaicGUARD%iaGUARD!j7DAGGER",
      "!mdi6o6f!TWO-EMmg!THREE-EMmg!STENOGRAPHIClqki!ixiyje!WIGGLYixkq!CAPITULUM!ihtn!kdk2",
      "!ihLOW-REVERSED-9noij!mgaicUPTURN!ihSUSPENSIONij!ksjvKAVYKA&aKAVYKAib!jvKAVYKA%aii",
      "!ihSTACKEDk2!mqo5!lzDAGGER!MEDIEVALk2!PARAGRAPHUSij!PUNCTUS ELEVATUSij!CORNISH VERSEyw",
      "!l0PATTYaiaCROSSBAR&icCROSSBAR!TIRONIANfeET!MEDIEVALokij$nxij!icjbjaaiq!iajbjaaiq",
      "!icjbjaaihiq!iajbjaaihiq!mdi6icma%iama!ndi6icma%iama!rwtn"]⟩,
    ⟨0x2E80, [
      "!CJK RADICAL REPEAT%CLIFF%SECONDig&id&ik%rg%oi%TABLE%KNIFEig&id%DIVINATION%SEAL%cig&id",
      "%LAMEig&id&ik&io%SNAKE%THREAD%SNOUTig&id%n1ig&id%nm%RAP!!CJK RADICAL CHOKE%SUN%oq%DEATH",
      "%MOTHER%CIVILIAN%s9ig&id%FIRE%PAWig&id%SIMPLIFIEDi6TREE TRUNK%COW%DOG%JADE%BOLT OF CLOTH%EYE",
      "%SPIRITig&id%BAMBOO%SILK%rqSILK%NETig&id&ik&io%MESH%SHEEP%RAM%EWE%lj%BRUSHig&id%MEAT%MORTAR",
      "%GRASSig&id&ik%TIGER%CLOTHES%liig&id%rqSEE%SIMPLIFIEDm5%m5%rqSPEECH&o9%FOOT%rqCART",
      "%SIMPLIFIED WALK%WALKig&id%CITY%rqGOLD%j9ig&id%rqj9&GATE%MOUNDig&id%RAIN%BLUE",
      "%rqTANNED LEATHER&pu&WIND&FLY%EATig&id&ik%rqEAT%qi%rqv5%BONE%GHOST%rqFISH&BIRD&SALT",
      "%SIMPLIFIED WHEAT&YELLOW%rqFROG%zuEVEN%rqEVEN%zuTOOTH%rqTOOTH%zuxg%rqxg%TURTLE%zuTURTLE",
      "%rqTURTLE!!!!!!!!!!!!!KANGXI RADICALig%kq%ii%rj%SECOND%ip%id%LID%p0%LEGS%ENTER%iz%i8oi%COVER",
      "%ICE%TABLE%j6oi%KNIFE%POWER%WRAP%SPOON%iaj6oi%HIDING ENCLOSURE%ka%DIVINATION%SEAL%CLIFF",
      "%PRIVATE%AGAIN%px%ENCLOSURE%sm%SCHOLAR%GO&SLOWLY%EVENING%BIG%WOMAN%CHILD%ROOF%INCH%c%LAME",
      "%CORPSE%SPROUT%wx%RIVER%WORK%ONESELF%TURBAN%DRY%lpTHREAD%mqCLIFF%j9STRIDE%idv6%SHOOT%BOW",
      "%SNOUT%BRISTLE%STEP%n1%HALBERD%DOOR%nm%BRANCH%RAP%o8%DIPPER%AXE%jb%k5%SUN%SAY%oq%TREE%LACK",
      "%ki%DEATH%WEAPON%DOk5%COMPARE%FUR%CLAN%STEAM%s9%FIRE%CLAW%FATHER%ihX%i6TREE TRUNK%SLICE%FANG",
      "%COW%DOG%PROFOUND%JADE%MELON%TILE%SWEET%LIFE%USE%FIELD%BOLT OF CLOTH%SICKNESS%mqTENT%in%SKIN",
      "%ph%EYE%SPEAR%h%STONE%SPIRIT%TRACK%GRAIN%CAVE%STAND%BAMBOO%RICE%SILK%JAR%NET%SHEEP%FEATHER",
      "%lj%g%PLOW%EAR%BRUSH%MEAT%MINISTER%SELF%ARRIVE%MORTAR%TONGUE%OPPOSE%BOAT%STOPPING%COLOR",
      "%GRASS%TIGER%INSECT%BLOOD%WALK ENCLOSURE%CLOTHES%li%SEE%m5%SPEECH%VALLEY%BEAN%PIG%BADGER%o9",
      "%RED%RUN%FOOT%BODY%CART%BITTER%MORNING%WALK%CITY%WINE%DISTINGUISH%VILLAGE%GOLD%j9%GATE%MOUND",
      "%SLAVE%lpTAILED BIRD%RAIN%BLUE%WRONG%jc%LEATHER%TANNED LEATHER%LEEK%q6%pu%WIND%FLY%EAT%qi",
      "%FRAGRANT%v5%BONE%TALL%HAIR%FIGHT%SACRIFICIAL WINE%CAULDRON%GHOST%FISH%BIRD%SALT%DEER%WHEAT",
      "%HEMP%YELLOW%MILLET%il%EMBROIDERY%FROG%TRIPOD%DRUM%RAT%NOSE%EVEN%TOOTH%xg%TURTLE%FLUTE"]⟩,
    ⟨0x2FF0, [
      "!rrDESCRIPTIONvhicTOia&ibTOie&icTOiwgia&ibTOiwgie&lqSURROUND&SURROUNDnlib+ie+ic+j3ic,ia+jtic",
      "&OVERLAID!!!!!rrpp$k2$lqki!DITTOij!xvINDUSTRIAL STANDARDir!rrviij$CLOSINGij$kxj1!iclmja",
      "!ialmja!icihlmja!iaihlmja!icneja!ianeja!icinneja!iainneja!icilv9ja!iailv9ja!POSTALij!GETAij",
      "!icqmo9ja!iaqmo9ja!icinv9ja!iainv9ja!icinqmo9ja!iainqmo9ja!icinjbja!iainjbja!ptmg!kdihtunoij",
      "!ihtunoij!jvihtunoij!POSTALijjc!HANGZHOUusig%id%ik%io%is%iy%i5%iz%i9!rrLEVELj5ij$s3j5ij",
      "$DEPARTINGj5ij$ENTERINGj5ij!vskniij5ij$ihiij5ij!WAVYmg!ixKANA REPEATij&au0q6ij&ijj3i6",
      "&au0q6ijj3i6&ijjti6!lgPOSTALij!rrTELEGRAPHkqFEEDo2ir!HANGZHOUuska%mf%po!ixrrviij!MASUij",
      "!PART ALTERNATIONij!rrVARIATIONwc$i6sqpp!!ymbcA%A%cI%I%cU%U%cE%E%cO%O%KA%GA%KI%GI%KU%GU%KE",
      "%GE%KO%GO%SA%ZA%SI%ZI%SU%ZU%SE%ZE%SO%ZO%TA%DA%TI%DI%cTU%TU%DU%TE%DE%TO%DO%NA%NI%NU%NE%NO%HA",
      "%BA%PA%HI%BI%PI%HU%BU%PU%HE%BE%PE%HO%BO%PO%MA%MI%MU%ME%MO%cYA%YA%cYU%YU%cYO%YO%RA%RI%RU%RE",
      "%RO%cWA%WA%WI%WE%WO%N%VU%cKA&KE!!!mmy4u0q6ij%SEMI-VOICEDq6ij!y4u0q6ij$SEMI-VOICEDq6ij!ymviij",
      "$u0viij$n8YORI!y4ihtn!uebcA%A%cI%I%cU%U%cE%E%cO%O%KA%GA%KI%GI%KU%GU%KE%GE%KO%GO%SA%ZA%SI%ZI",
      "%SU%ZU%SE%ZE%SO%ZO%TA%DA%TI%DI%cTU%TU%DU%TE%DE%TO%DO%NA%NI%NU%NE%NO%HA%BA%PA%HI%BI%PI%HU%BU",
      "%PU%HE%BE%PE%HO%BO%PO%MA%MI%MU%ME%MO%cYA%YA%cYU%YU%cYO%YO%RA%RI%RU%RE%RO%cWA%WA%WI%WE%WO%N",
      "%VU%cKA&KE%VA%VI%VE%VO$iwii!y4PROLONGEDq6ij!ueviij$u0viij$n8KOTO!!!!!!BOPOMOFObB%P%M%F%D%T%N",
      "%L%G%K%H%J%Q%X%ZH%CH%SH%R%Z%C%S%A%O%E%EH%AI%EI%AU%OU%AN%EN%ANG%ENG%ER%I%U%IU%V%NG%GN%IH",
      "%Oaiiib%NN!!vsbxd%zw%KIYEOK-SIOS%NIEUN%zz%z0%xe%zx%RIEUL%zs%z1%z2%RIEUL-SIOS%RIEUL-THIEUTH",
      "%RIEUL-PHIEUPH%zy%MIEUM%PIEUP%SSANGPIEUP%PIEUP-SIOS%SIOS%SSANGSIOS%v0%v1%SSANGCIEUC%w4%w5%w6",
      "%w7%HIEUH%A%AE%YA%YAE%EO%E%YEO%YE%O%WA%WAE%OE%YO%U%WEO%WE%WI%YU%EU%YI%I$vt$bSSANGNIEUN",
      "%NIEUN-TIKEUT%NIEUN-SIOS%NIEUN-PANSIOS%RIEUL-KIYEOK-SIOS%RIEUL-TIKEUT%RIEUL-PIEUP-SIOS",
      "%RIEUL-PANSIOS%RIEUL-YEORINHIEUH%MIEUM-PIEUP%MIEUM-SIOS%MIEUM-PANSIOS%KAPYEOUNMIEUM",
      "%PIEUP-KIYEOK%PIEUP-TIKEUT%PIEUP-SIOS-KIYEOK%z8%PIEUP-CIEUC%PIEUP-THIEUTH%KAPYEOUNPIEUP",
      "%KAPYEOUNSSANGPIEUP%SIOS-KIYEOK%SIOS-NIEUN%SIOS-TIKEUT%SIOS-PIEUP%SIOS-CIEUC%PANSIOS",
      "%SSANGIEUNG%YESIEUNG%YESIEUNG-SIOS%YESIEUNG-PANSIOS%KAPYEOUNPHIEUPH%SSANGHIEUH%YEORINHIEUH",
      "%YO-YA%YO-YAE%YO-I%YU-YEO%YU-YE%YU-I%ARAEA%ARAEAE!!rrANNOTATION LINKINGij%pwij%igij%idij",
      "%ikij%ioij%mdij%iwij%ndij%v2ij%SECONDij%s8ij%FOURTHij%HEAVENij%smij%p0ij!BOPOMOFObBU%ZI%JI",
      "%GU%EE%ENN%OO%ONN%IR%ANN%INN%UNN%IM%NGG%AINN%AUNN%AM%OM%ONG%INNN$ifbP&T&K&H$bGH%LH%ZY$ifbG",
      "$bGW%KW%OE%AH!CJKiqT%WG%XG%BXG%SW%HZZ%HZG%HP%HZWG%SZWG%HZT%HZZP%HPWG%HZW%HZZZ%N%H%S%P%SP%D",
      "%HZ%HG%SZ%SWZ%ST%SG%PD%PZ%TN%SZZ%SWG%HXWG%HZZZG%PG%Q!!!!!!!!!!!!!uebcKU&SI&SU&TO&NU&HA&HI&HU",
      "&HE&HO&MU&RA&RI&RU&RE&RO!zmvsxd%NIEUN%xe%RIEUL%MIEUM%PIEUP%SIOS%v0%v1%w4%w5%w6%w7%HIEUH%xdA",
      "%NIEUN A%xeA%RIEUL A%MIEUM A%PIEUP A%SIOS A%v0A%v1A%w4A%w5A%w6A%w7A%HIEUH A%v1U",
      "$KOREANvhOJEON&O HU!!zmIDEOGRAPHig%id%ik%io%is%iy%i5%iz%i9%ka%oq%FIRE%s9%WOOD%METAL%sm%SUN",
      "%STOCK%HAVE%SOCIETY%NAME%SPECIAL%FINANCIAL%CONGRATULATION%LABOR%REPRESENT%CALL%STUDY",
      "%SUPERVISE%ENTERPRISE%RESOURCE%ALLIANCE%FESTIVAL%qw%SELF%REACH!lgIDEOGRAPHnx%KINDERGARTEN",
      "%SCHOOL%KOTO$kxkaONiljb%mfONiljb%poONiljb%qsONiljb%nbONiljb%q5ONiljb%m4ONiljb%r1ONiljb",
      "!PARTNERSHIPf!lgkxmfig&id&ik&io&is&iy&i5&iz&i9%po&ig&id&ik&io&is$vsxd%NIEUN%xe%RIEUL%MIEUM",
      "%PIEUP%SIOS%v0%v1%w4%w5%w6%w7%HIEUH%xdA%NIEUN A%xeA%RIEUL A%MIEUM A%PIEUP A%SIOS A%v0A%v1A",
      "%w4A%w5A%w6A%w7A%HIEUH A$KOREANvhCHAMKO&JUEUI$vsv0U!KOREAN STANDARDir!lgIDEOGRAPHig%id%ik%io",
      "%is%iy%i5%iz%i9%ka%oq%FIRE%s9%WOOD%METAL%sm%SUN%STOCK%HAVE%SOCIETY%NAME%SPECIAL%FINANCIAL",
      "%CONGRATULATION%LABOR%SECRET%MALE%FEMALE%SUITABLE%EXCELLENT%PRINT%ATTENTION%ITEM%qw%COPY",
      "%CORRECT%kg%lb%jv%ic%ia%MEDICINE%RELIGION%STUDY%SUPERVISE%ENTERPRISE%RESOURCE%ALLIANCE%NIGHT",
      "$kxpoiy&i5&iz&i9%qs&ig&id&ik&io&is&iy&i5&iz&i9%nb!rrTELEGRAPHirmtJANUARY*FEBRUARY*MARCH",
      "*APRIL*MAY*JUNE*JULY*AUGUST*SEPTEMBER*OCTOBER*NOVEMBER*DECEMBER!jbHG$ERG$EV",
      "!LIMITED LIABILITYf!lgueA%I%U%E%O%KA%KI%KU%KE%KO%SA%SI%SU%SE%SO%TA%TI%TU%TE%TO%NA%NI%NU%NE",
      "%NO%HA%HI%HU%HE%HO%MA%MI%MU%ME%MO%YA%YU%YO%RA%RI%RU%RE%RO%WA%WI%WE%WO!jbERA NAME REIWA",
      "$APAATO$ARUHUA$ANPEA$AARU$ININGU$INTI$UON$ESUKUUDO$EEKAA$ONSU$OOMU$KAIRI$KARATTO$KARORII",
      "$GARON$GANMA$GIGA$GINII$KYURII$GIRUDAA$KIRO$KIROGURAMU$KIROMEETORU$KIROWATTO$GURAMU",
      "$GURAMUTON$KURUZEIRO$KUROONE$KEESU$KORUNA$KOOPO$SAIKURU$SANTIIMU$SIRINGU$SENTI$SENTO$DAASU",
      "$DESI$DORU$TON$NANO$NOTTO$HAITU$PAASENTO$PAATU$BAARERU$PIASUTORU$PIKURU$PIKO$BIRU$HUARADDO",
      "$HUIITO$BUSSYERU$HURAN$HEKUTAARU$PESO$PENIHI$HERUTU$PENSU$PEEZI$BEETA$POINTO$BORUTO$HON",
      "$PONDO$HOORU$HOON$MAIKURO$MAIRU$MAHHA$MARUKU$MANSYON$MIKURON$MIRI$MIRIBAARU$MEGA$MEGATON",
      "$MEETORU$YAADO$YAARU$YUAN$RITTORU$RIRA$RUPII$RUUBURU$REMU$RENTOGEN$WATTO",
      "!rrTELEGRAPHirmtHOURj1+ig+id+ik+io+is+iy+i5+iz+i9+ka+tq+si+wu+wv+ug+uu+wi+vk+ww+mf",
      "+TWENTY-ONE+TWENTY-TWO+TWENTY-THREE+TWENTY-FOUR!jbHPA$DA$AU$i2$OV$PC$DM%m1%CUBED$IU",
      "$ERA NAME HEISEI&SYOUWA&TAISYOU&MEIZI$CORPORATION$PA AMPS$NA$MU A$MA$KA$KB$MB$GB$CAL$KCAL$PF",
      "$NF$MU F%G$MG$KG$HZ$KHZ$MHZ$GHZ$THZ$MU L$ML$DL$KL$FM$NM$MU M$MM$CM$KM$MMm1$CMm1$Mm1$KMm1",
      "$MM CUBED$CM CUBED$M CUBED$KM CUBED$MjgS*m1$PA$KPA$MPA$GPA$RAD%jgS*m1$PS$NS$MU S$MS$PV$NV",
      "$MU V$MV$KV$MV MEGA$PW$NW$MU W$MW$KW$MW MEGA$K OHM$M OHM$AM$BQ$CC$CD$CjgKG$CO$DB$GY$HA$HP$IN",
      "$KK$KMe$KT$LM$LN$LOG$LX$MBc$MIL$MOL$PH$PM$PPM$PR$SR$SV$WB$VjgM$AjgM!rrTELEGRAPHirmtDAYig+id",
      "+ik+io+is+iy+i5+iz+i9+ka+tq+si+wu+wv+ug+uu+wi+vk+ww+mf+TWENTY-ONE+TWENTY-TWO+TWENTY-THREE",
      "+TWENTY-FOUR+z4+TWENTY-SIX+TWENTY-SEVEN+TWENTY-EIGHT+TWENTY-NINE+po+THIRTY-ONE!jbGAL"]⟩,
    ⟨0x4DC0, [
      "!HEXAGRAMmtmvCREATIVE HEAVEN&RECEPTIVEsm%DIFFICULTY ATmvBEGINNING%YOUTHFUL FOLLY%WAITING",
      "%CONFLICT%mvARMY%yxTOGETHER%cTAMING%TREADING%PEACE%STANDSTILL%FELLOWSHIP%GREAT POSSESSION",
      "%MODESTY%ENTHUSIASM%FOLLOWING%WORK ONmvDECAYED%APPROACH%CONTEMPLATION%BITINGsg%GRACE",
      "%SPLITTING APART%RETURN%INNOCENCE%GREAT TAMING%pxyu%GREAT PREPONDERANCE%mvABYSMALs9",
      "&CLINGING FIRE%INFLUENCE%DURATION%RETREAT%GREAT POWER%PROGRESS%DARKENING OFmvjl%mvFAMILY",
      "%OPPOSITION%OBSTRUCTION%DELIVERANCE%DECREASE%INCREASE%BREAKTHROUGH%COMING TO MEET",
      "%GATHERING TOGETHER%PUSHING UPWARD%OPPRESSION%mvWELL%REVOLUTION%mvCAULDRON&AROUSING THUNDER",
      "&KEEPING STILLwx%DEVELOPMENT%mvMARRYING MAIDEN%ABUNDANCE%mvWANDERER&GENTLE WIND&JOYOUS LAKE",
      "%DISPERSION%LIMITATION%INNER TRUTH%cPREPONDERANCE%AFTER COMPLETION%BEFORE COMPLETION"]⟩,
    ⟨0xA000, [
      "!YIrcIT%IX%I%IP%IET%IEX%IE%IEP%AT%AX%A%AP%UOX%UO%UOP%OT%OX%O%OP%EX%E%WU%BIT%BIX%BI%BIP%BIET",
      "%BIEX%BIE%BIEP%BAT%BAX%BA%BAP%BUOX%BUO%BUOP%BOT%oi%BO%BOP%BEX%BE%BEP%BUT%BUX%BU%BUP%BURX%BUR",
      "%BYT%BYX%BY%BYP%BYRX%BYR%PIT%PIX%PI%PIP%PIEX%PIE%PIEP%PAT%PAX%PA%PAP%PUOX%PUO%PUOP%POT%POX",
      "%PO%POP%PUT%PUX%PU%PUP%PURX%PUR%PYT%PYX%PY%PYP%PYRX%PYR%BBIT%BBIX%BBI%BBIP%BBIET%BBIEX%BBIE",
      "%BBIEP%BBAT%BBAX%BBA%BBAP%BBUOX%BBUO%BBUOP%BBOT%BBOX%BBO%BBOP%BBEX%BBE%BBEP%BBUT%BBUX%BBU",
      "%BBUP%BBURX%BBUR%BBYT%BBYX%BBY%BBYP%NBIT%NBIX%NBI%NBIP%NBIEX%NBIE%NBIEP%NBAT%NBAX%NBA%NBAP",
      "%NBOT%NBOX%NBO%NBOP%NBUT%NBUX%NBU%NBUP%NBURX%NBUR%NBYT%NBYX%NBY%NBYP%NBYRX%NBYR%HMIT%HMIX",
      "%HMI%HMIP%HMIEX%HMIE%HMIEP%HMAT%HMAX%HMA%HMAP%HMUOX%HMUO%HMUOP%HMOT%HMOX%HMO%HMOP%HMUT%HMUX",
      "%HMU%HMUP%HMURX%HMUR%HMYX%HMY%HMYP%HMYRX%HMYR%MIT%MIX%MI%MIP%MIEX%MIE%MIEP%MAT%MAX%MA%MAP",
      "%MUOT%MUOX%MUO%MUOP%MOT%MOX%MO%MOP%MEX%ME%MUT%MUX%MU%MUP%MURX%MUR%MYT%MYX%MY%MYP%FIT%FIX%FI",
      "%FIP%FAT%FAX%FA%FAP%FOX%FO%FOP%FUT%FUX%FU%FUP%FURX%FUR%FYT%FYX%FY%FYP%VIT%VIX%VI%VIP%VIET",
      "%VIEX%VIE%VIEP%VAT%VAX%VA%VAP%VOT%VOX%VO%VOP%VEX%VEP%VUT%VUX%VU%VUP%VURX%VUR%VYT%VYX%VY%VYP",
      "%VYRX%VYR%DIT%DIX%DI%DIP%DIEX%DIE%DIEP%DAT%DAX%DA%DAP%DUOX%DUO%ii%DOX%DO%DOP%DEX%DE%DEP%DUT",
      "%DUX%DU%DUP%DURX%DUR%TIT%TIX%TI%TIP%TIEX%TIE%TIEP%TAT%TAX%TA%TAP%TUOT%TUOX%TUO%TUOP%TOT%TOX",
      "%TO%md%TEX%TE%TEP%TUT%TUX%TU%TUP%TURX%TUR%DDIT%DDIX%DDI%DDIP%DDIEX%DDIE%DDIEP%DDAT%DDAX%lt",
      "%DDAP%DDUOX%DDUO%DDUOP%DDOT%DDOX%DDO%DDOP%DDEX%DDE%DDEP%DDUT%DDUX%DDU%DDUP%DDURX%DDUR%NDIT",
      "%NDIX%NDI%NDIP%NDIEX%NDIE%NDAT%NDAX%NDA%NDAP%NDOT%NDOX%NDO%NDOP%NDEX%NDE%NDEP%NDUT%NDUX%NDU",
      "%NDUP%NDURX%NDUR%HNIT%HNIX%HNI%HNIP%HNIET%HNIEX%HNIE%HNIEP%HNAT%HNAX%HNA%HNAP%HNUOX%HNUO",
      "%HNOT%HNOX%HNOP%HNEX%HNE%HNEP%HNUT%NIT%NIX%NI%NIP%NIEX%NIE%NIEP%NAX%NA%NAP%NUOX%NUO%NUOP%k5",
      "%NOX%NO%NOP%NEX%NE%NEP%NUT%NUX%NU%NUP%NURX%NUR%HLIT%HLIX%HLI%HLIP%HLIEX%HLIE%HLIEP%HLAT%HLAX",
      "%HLA%HLAP%HLUOX%HLUO%HLUOP%HLOX%HLO%HLOP%HLEX%HLE%HLEP%HLUT%HLUX%HLU%HLUP%HLURX%HLUR%HLYT",
      "%HLYX%HLY%HLYP%HLYRX%HLYR%LIT%LIX%LI%LIP%LIET%LIEX%LIE%LIEP%LAT%LAX%LA%LAP%LUOT%LUOX%LUO",
      "%LUOP%LOT%LOX%LO%LOP%LEX%LE%LEP%LUT%LUX%LU%LUP%LURX%LUR%LYT%LYX%LY%LYP%LYRX%LYR%GIT%GIX%GI",
      "%GIP%GIET%GIEX%GIE%GIEP%GAT%GAX%GA%GAP%GUOT%GUOX%GUO%GUOP%GOT%GOX%GO%GOP%GET%GEX%GE%GEP%GUT",
      "%GUX%GU%GUP%GURX%GUR%KIT%KIX%KI%KIP%KIEX%KIE%KIEP%KAT%KAX%KA%KAP%KUOX%KUO%KUOP%KOT%KOX%KO",
      "%KOP%KET%KEX%KE%KEP%KUT%KUX%KU%KUP%KURX%KUR%GGIT%GGIX%GGI%GGIEX%GGIE%GGIEP%GGAT%GGAX%GGA",
      "%GGAP%GGUOT%GGUOX%GGUO%GGUOP%GGOT%GGOX%GGO%GGOP%GGET%GGEX%GGE%GGEP%GGUT%GGUX%GGU%GGUP%GGURX",
      "%GGUR%MGIEX%MGIE%MGAT%MGAX%MGA%MGAP%MGUOX%MGUO%MGUOP%MGOT%MGOX%MGO%MGOP%MGEX%MGE%MGEP%MGUT",
      "%MGUX%MGU%MGUP%MGURX%MGUR%HXIT%HXIX%HXI%HXIP%HXIET%HXIEX%HXIE%HXIEP%HXAT%HXAX%HXA%HXAP%HXUOT",
      "%HXUOX%HXUO%HXUOP%HXOT%HXOX%HXO%HXOP%HXEX%HXE%HXEP%NGIEX%NGIE%NGIEP%NGAT%NGAX%kh%NGAP%NGUOT",
      "%NGUOX%NGUO%NGOT%NGOX%NGO%NGOP%NGEX%NGE%NGEP%HIT%HIEX%HIE%HAT%HAX%HA%HAP%HUOT%HUOX%HUO%HUOP",
      "%HOT%HOX%HO%HOP%HEX%HE%HEP%WAT%WAX%WA%WAP%WUOX%WUO%WUOP%WOX%WO%WOP%WEX%WE%WEP%ZIT%ZIX%ZI%ZIP",
      "%ZIEX%ZIE%ZIEP%ZAT%ZAX%ZA%ZAP%ZUOX%ZUO%ZUOP%ZOT%ZOX%ZO%ZOP%ZEX%ZE%ZEP%ZUT%ZUX%ZU%ZUP%ZURX",
      "%ZUR%ZYT%ZYX%ZY%ZYP%ZYRX%ZYR%CIT%CIX%CI%CIP%CIET%CIEX%CIE%CIEP%CAT%CAX%CA%CAP%CUOX%CUO%CUOP",
      "%COT%COX%CO%COP%CEX%CE%CEP%CUT%CUX%CU%CUP%CURX%CUR%CYT%CYX%CY%CYP%CYRX%CYR%ZZIT%ZZIX%ZZI",
      "%ZZIP%ZZIET%ZZIEX%ZZIE%ZZIEP%ZZAT%ZZAX%ZZA%ZZAP%ZZOX%ZZO%ZZOP%ZZEX%ZZE%ZZEP%ZZUX%ZZU%ZZUP",
      "%ZZURX%ZZUR%ZZYT%ZZYX%ZZY%ZZYP%ZZYRX%ZZYR%NZIT%NZIX%NZI%NZIP%NZIEX%NZIE%NZIEP%NZAT%NZAX%NZA",
      "%NZAP%NZUOX%NZUO%NZOX%NZOP%NZEX%NZE%NZUX%NZU%NZUP%NZURX%NZUR%NZYT%NZYX%NZY%NZYP%NZYRX%NZYR",
      "%SIT%iy%SI%SIP%SIEX%SIE%SIEP%SAT%SAX%SA%SAP%SUOX%SUO%SUOP%SOT%SOX%SO%SOP%SEX%SE%SEP%SUT%SUX",
      "%SU%SUP%SURX%SUR%SYT%SYX%SY%SYP%SYRX%SYR%SSIT%SSIX%SSI%SSIP%SSIEX%SSIE%SSIEP%SSAT%SSAX%ml",
      "%SSAP%SSOT%SSOX%SSO%SSOP%SSEX%SSE%SSEP%SSUT%SSUX%SSU%SSUP%SSYT%SSYX%SSY%SSYP%SSYRX%SSYR%ZHAT",
      "%ZHAX%pv%ZHAP%ZHUOX%ZHUO%ZHUOP%ZHOT%ZHOX%ZHO%ZHOP%ZHET%ZHEX%ZHE%ZHEP%ZHUT%ZHUX%ZHU%ZHUP",
      "%ZHURX%ZHUR%ZHYT%ZHYX%ZHY%ZHYP%ZHYRX%ZHYR%CHAT%CHAX%kp%CHAP%CHUOT%CHUOX%CHUO%CHUOP%CHOT%CHOX",
      "%CHO%CHOP%CHET%CHEX%pb%CHEP%CHUX%CHU%CHUP%CHURX%CHUR%CHYT%CHYX%CHY%CHYP%CHYRX%CHYR%RRAX%p6",
      "%RRUOX%RRUO%RROT%RROX%RRO%RROP%RRET%RREX%RRE%RREP%RRUT%RRUX%RRU%RRUP%RRURX%RRUR%RRYT%RRYX",
      "%RRY%RRYP%RRYRX%RRYR%NRAT%NRAX%NRA%NRAP%NROX%NRO%NROP%NRET%NREX%NRE%NREP%NRUT%NRUX%NRU%NRUP",
      "%NRURX%NRUR%NRYT%NRYX%NRY%NRYP%NRYRX%NRYR%SHAT%SHAX%kj%SHAP%SHUOX%SHUO%SHUOP%SHOT%SHOX%SHO",
      "%SHOP%SHET%SHEX%m7%SHEP%SHUT%SHUX%SHU%SHUP%SHURX%SHUR%SHYT%SHYX%SHY%SHYP%SHYRX%SHYR%RAT%RAX",
      "%RA%RAP%RUOX%RUO%RUOP%ROT%ROX%RO%ROP%REX%RE%REP%RUT%RUX%RU%RUP%RURX%RUR%RYT%RYX%RY%RYP%RYRX",
      "%RYR%JIT%JIX%JI%JIP%JIET%JIEX%JIE%JIEP%JUOT%JUOX%JUO%JUOP%JOT%JOX%JO%JOP%JUT%JUX%JU%JUP%JURX",
      "%JUR%JYT%JYX%JY%JYP%JYRX%JYR%QIT%QIX%QI%QIP%QIET%QIEX%QIE%QIEP%QUOT%QUOX%QUO%QUOP%QOT%QOX%QO",
      "%QOP%QUT%QUX%QU%QUP%QURX%QUR%QYT%QYX%QY%QYP%QYRX%QYR%JJIT%JJIX%JJI%JJIP%JJIET%JJIEX%JJIE",
      "%JJIEP%JJUOX%JJUO%JJUOP%JJOT%JJOX%JJO%JJOP%JJUT%JJUX%JJU%JJUP%JJURX%JJUR%JJYT%JJYX%JJY%JJYP",
      "%NJIT%NJIX%NJI%NJIP%NJIET%NJIEX%NJIE%NJIEP%NJUOX%NJUO%NJOT%NJOX%NJO%NJOP%NJUX%NJU%NJUP%NJURX",
      "%NJUR%NJYT%NJYX%NJY%NJYP%NJYRX%NJYR%NYIT%NYIX%NYI%NYIP%NYIET%NYIEX%NYIE%NYIEP%NYUOX%NYUO",
      "%NYUOP%NYOT%NYOX%NYO%NYOP%NYUT%NYUX%NYU%NYUP%XIT%XIX%XI%XIP%XIET%XIEX%XIE%XIEP%XUOX%XUO%XOT",
      "%XOX%XO%XOP%XYT%XYX%XY%XYP%XYRX%XYR%YIT%YIX%YI%YIP%YIET%YIEX%YIE%YIEP%YUOT%YUOX%YUO%YUOP%YOT",
      "%YOX%YO%YOP%YUT%YUX%YU%YUP%YURX%YUR%YYT%YYX%YY%YYP%YYRX%YYR!!!!YI RADICAL QOT%LI%KIT%NYIP",
      "%CYP%SSI%GGOP%GEP%MI%HXIT%LYR%BBUT%MOP%YO%PUT%HXUO%TAT%GA%ZUP%CYT%DDUR%BUR%GGUO%NYOP%TU%OP",
      "%JJUT%ZOT%PYT%HMO%YIT%VUR%SHY%VEP%ZA%JO%NZUP%JJY%GOT%JJIE%WO%DU%SHUR%LIE%CY%CUOP%CIP%HXOP",
      "%SHAT%ZUR%SHOP%pb%ZZIET%NBIE%KE!!!!!!!!!!LISUbBA%PA%lf%DA%TA%k3%GA%KA%kw%JA%CA%kp%DZA%nv%r8",
      "%MA%NA%LA%SA%pv%ZA%kh%HA%XA%HHA%FA%WA%kj%YA%lx%A%AE%E%EU%I%O%U%UE%UH%OE%j5MYA TI&NA PO",
      "&MYA CYA*BO*NA*JEU$l8k2%lqki!VAIrcEE%EEN%HEE%WEE%WEEN%PEE%BHEE%BEE%MBEE%KPEE%MGBEE%GBEE%FEE",
      "%VEE%TEE%THEE%DHEE%DHHEE%LEE%REE%DEE%NDEE%SEE%SHEE%ZEE%ZHEE%CEE%JEE%NJEE%YEE%KEE%NGGEE%GEE",
      "%MEE%NEE%NYEE%I%IN%HI%HIN%WI%WIN%PI%BHI%BI%MBI%KPI%MGBI%GBI%FI%VI%TI%THI%DHI%DHHI%LI%RI%DI",
      "%NDI%SI%SHI%ZI%ZHI%CI%JI%NJI%YI%KI%NGGI%GI%MI%NI%NYI%A%AN%NGAN%HA%HAN%WA%WAN%PA%l7%BA%MBA",
      "%KPA%KPAN%MGBA%GBA%FA%VA%TA%k3%lv%DHHA%LA%RA%DA%NDA%SA%kj%ZA%pv%CA%JA%NJA%YA%KA%KAN%NGGA%GA",
      "%MA%NA%kr%OO%OON%HOO%WOO%WOON%POO%BHOO%BOO%MBOO%KPOO%MGBOO%GBOO%FOO%VOO%TOO%THOO%DHOO%DHHOO",
      "%LOO%ROO%DOO%NDOO%SOO%SHOO%ZOO%ZHOO%COO%JOO%NJOO%YOO%KOO%NGGOO%GOO%MOO%NOO%NYOO%U%UN%HU%HUN",
      "%WU%WUN%PU%BHU%BU%MBU%KPU%MGBU%GBU%FU%VU%TU%THU%DHU%DHHU%LU%RU%DU%NDU%SU%SHU%ZU%ZHU%CU%JU",
      "%NJU%YU%KU%NGGU%GU%MU%NU%NYU%O%ON%NGON%HO%HON%WO%WON%PO%BHO%BO%MBO%KPO%MGBO%GBO%GBON%FO%VO",
      "%TO%THO%DHO%DHHO%LO%RO%DO%NDO%SO%SHO%ZO%ZHO%CO%JO%NJO%YO%KO%NGGO%GO%MO%NO%NYO%E%EN%NGEN%HE",
      "%HEN%WE%WEN%PE%BHE%BE%MBE%KPE%KPEN%MGBE%GBE%GBEN%FE%VE%TE%mv%DHE%DHHE%LE%RE%DE%NDE%SE%m7%ZE",
      "%ZHE%CE%JE%NJE%YE%KE%NGGE%NGGEN%GE%GEN%ME%NE%NYE%NG%LENGTHENER$k2$lqki$nxij$rcNDOLE FA&KA",
      "&SOO$irFEENG%KEENG%TING%NII%BANG%FAA%TAA%DANG%DOONG%KUNG%TONG%DO-O%JONG$jpj1%ig%id%ik%io%is",
      "%iy%i5%iz%i9$rcNDOLE MA&DO!!!!!!!!!!!!!!!!!!!!!sdebZEMLYA$cbZEMLYA$ebDZELO$cbDZELO$ebkdDZE",
      "$cbkdDZE$ebnk$cbnk$ebDJERV$cbDJERV$ebMONOGRAPH UK$cbMONOGRAPH UK$ebBROADms$cbBROADms$ebpnYER",
      "$cbpnYER$ebYERUat8YER$cbYERUat8YER$ebraYAT$cbraYAT$ebkdYU$cbkdYU$ebraA$cbraA$ebm3lan3",
      "$cbm3lan3$ebBLENDEDn3$cbBLENDEDn3$ebram3lan3$cbram3lan3$ebYN$cbYN$ebkdTSE$cbkdTSE$ebsoDE",
      "$cbsoDE$ebsoEL$cbsoEL$ebsoEM$cbsoEM$ebMONOCULAR O$cbMONOCULAR O$ebBINOCULAR O$cbBINOCULAR O",
      "$ebihMONOCULAR O$cbihMONOCULAR O$bMULTIOCULAR O!mmsdVZMET%kaxsf%i7xsf%jhxsf!SLAVONICly",
      "!mmsdbUKRAINIAN IE&I&YI&U&HARDf&YERU&sof&ms%KAVYKA%PAYEROK!sdKAVYKA$PAYEROK$ebDWE$cbDWE",
      "$ebDZWE$cbDZWE$ebZHWE$cbZHWE$ebCCHE$cbCCHE$ebDZZE$cbDZZE$ebTEaiwip$cbTEaiwip$ebTWE$cbTWE",
      "$ebTSWE$cbTSWE$ebTSSE$cbTSSE$ebTCHE$cbTCHE$ebHWE$cbHWE$ebSHWE$cbSHWE$ebihO$cbihO$ebs1O$cbs1O",
      "!npbsdHARDf&sof!mmsdbEF&raE!BAMUMbA%KA%U%KU%EE%REE%TAE%O%NYI%I%LA%PA%RII%RIEE%LEEEE%MEEEE",
      "%TAA%NDAA%NJAEM%M%SUU%MU%SHII%SI%SHEUX%SEUX%KYEE%KET%NUAE%NU%NJUAE%YOQ%SHU%YUQ%YA%NSHA%KEUX",
      "%PEUX%NJEE%NTEE%PUE%WUE%PEE%FEE%RU%LU%MI%NI%REUX%RAE%KEN%NGKWAEN%NGGA%kh%SHO%PUAE%FU%FOM%WA",
      "%NA%LI%PI%LOQ%KO%MBEN%REN%MEN%MA%TI%KI%MO%MBAA%TET%KPA%ka%NTUU%SAMBA%FAAMAE%KOVUU%KOGHOM",
      "$mmijKOQNDON&TUKWENTIS$NJAEMLI$lqki$nj$k2$th$nxij!!!!!!!!!npbCHINESEj5YIN PING*t1PING",
      "*YIN SHANG*t1SHANG*YIN QU*t1QU*YIN RU*t1RU%EXTRA-HIGHmqj5i2%kgmqj5i2%MIDmqj5i2%jvmqj5i2",
      "%EXTRA-LOWmqj5i2%EXTRA-HIGHmquqj5i2%kgmquqj5i2%MIDmquqj5i2%jvmquqj5i2%EXTRA-LOWmquqj5i2",
      "%EXTRA-HIGHuqj5i2%kguqj5i2%MIDuqj5i2%jvuqj5i2%EXTRA-LOWuqj5i2%iiixi2&rj&jni2%jtianelm%omUPh",
      "&i8h&okij&ksokij%jvksokij%STRESSgkgj5*jvj5!loebznjj$cbznjj$ebznnc$cbznnc$ebHENG$cbHENG$ebTZ",
      "$cbTZ$ebTRESILLO$cbTRESILLO$ebCUATRILLO$cbCUATRILLO$ebCUATRILLOak2$cbCUATRILLOak2$bceF*S",
      "$ebAA$cbAA$ebAO$cbAO$ebAU$cbAU$ebAV$cbAV$ebAVajni2$cbAVajni2$ebAY$cbAY$ebkdCaii$cbkdCaii",
      "$ebKaiq$cbKaiq$ebKal1iq$cbKal1iq$ebKaiqgl1iq$cbKaiqgl1iq$ebBROKEN L$cbBROKEN L$ebLakgiq",
      "$cbLakgiq$ebOaj9iqpf$cbOaj9iqpf$ebOaqu$cbOaqu$ebOO$cbOO$ebPaiqsgmi$cbPaiqsgmi$ebPaFLOURISH",
      "$cbPaFLOURISH$ebPaSQUIRRELle$cbPaSQUIRRELle$ebQaiqsgmi$cbQaiqsgmi$ebQal1iq$cbQal1iq",
      "$ebR ROTUNDA$cbR ROTUNDA$ebRUM ROTUNDA$cbRUM ROTUNDA$ebVal1iq$cbVal1iq$ebVY$cbVY",
      "$ebVISIGOTHIC Z$cbVISIGOTHIC Z$ebTHORNaiq$cbTHORNaiq$ebTHORNaiqsgmi$cbTHORNaiqsgmi$ebVEND",
      "$cbVEND$ebET$cbET$ebIS$cbIS$ebCON$cbCON!npbUS!locbDUM&LUM&MUM&NUM&RUM$bceRUM$cbTUM&UM$ebqoD",
      "$cbqoD$ebqoF$cbqoF$ebqoG&j7qoG$cbj7qoG$ebj7L$cbj7L$ebqoR$cbqoR$ebqoS$cbqoS$ebqoT$cbqoT",
      "!npbjvkbmn%nj%lpm2f!loebSALTILLO$cbSALTILLO$ebj7H$cbLambipgBELT$bSINOLOGICALii$ebNami$cbNami",
      "$ebCai2$cbCai2+nzip&Hanzip$ebBaFLOURISH$cbBaFLOURISH$ebFaiq$cbFaiq$ebyyAE$cbyyAE$ebyyOE",
      "$cbyyOE$ebyyUE$cbyyUE$ebGarwiq$cbGarwiq$ebKarwiq$cbKarwiq$ebNarwiq$cbNarwiq$ebRarwiq",
      "$cbRarwiq$ebSarwiq$cbSarwiq$ebHaip&kdj6E&o8G&LaBELT&ceI$bceQ$ebj7K*T&Jave&pa&qh$cbqh$ebms",
      "$cbms$ebUaiq$cbUaiq$ebn7A$cbn7A$ebn7I$cbn7I$ebn7U$cbn7U$ebljPOLISH O$cbljPOLISH O",
      "$ebANGLICANA W$cbANGLICANA W$ebCanzip&Saip&Zanzip&Dalpiqpf$cbDalpiqpf$ebSalpiqpf$cbSalpiqpf!",
      "!!!!!loebm3qoG$cbm3qoG!!locbihTHORN!!locbihWYNN$ebiwSCOTS S$cbiwSCOTS S$ebSIGMOID S",
      "$cbSIGMOID S"]⟩,
    ⟨0xA7F2, [
      "!npbeC&F&Q!loebkdi6H$cbkdi6H$EPIGRAPHICbvjI!npbeHaiq%cm8OE!lobcej7M$EPIGRAPHICbkdF*P&ksM",
      "&I LONGA&qcM!SYLOTI NAGRIbA&I%fDVISVARA%bU&E&O%fHASANTA%bKO&KHO&GO&GHO%flr%bCO&CHO&JO&JHO",
      "&TTO&TTHO&DDO&DDHO&TO&THO&DO&DHO&NO&PO&PHO&BO&BHO&MO&RO&LO&RRO&SO&HO%jkfA*I*U*E*OO",
      "%POETRY MARK-1&MARK-2&MARK-3&MARK-4%fpeHASANTA!!!!luINDICp9igm9*i6&ikrt&igyc*od&ikSIXTEENTHS",
      "%m9ij%PLACEHOLDERij%RUPEEij%QUANTITYij!!!!!!!PHAGS-PAbKA%kw%GA%kh%CA%kp%JA%kr%TA%k3%DA%NA%PA",
      "%lf%BA%MA%nv%r8%DZA%WA%pv%ZA%cA%YA%RA%LA%kj%SA%HA%A%I%U%E%O%QA%XA%FA%GGA%EE$ydbWA&YA$bls%mc",
      "%lt%l4%peYA%VOICELESSkj%u0HA%ASPIRATED FA$ydbRA$SUPERFIXEDbRA$bng$knqiij$ihqiij$ijrn%ihrn!!!",
      "!!!!!!SAURASHTRAflr%mx$bA%AA%I%II%U%UU%k7R&RR&L&LL%E%EE%AI%O%OO%AU%KA%kw%GA%lx%kh%CA%kp%JA",
      "%mz%kr%ls%mc%lt%mk%l4%TA%k3%DA%lv%NA%PA%lf%BA%l7%MA%YA%RA%LA%VA%kj%ml%SA%HA%og$pdfHAARU",
      "$jkfAA&I&II&U&UU&k7R*RR*L*LL&E&EE&AI&O&OO&AU$fme%ng!!!!!!!!!SAURASHTRAnq$ihnq$jpj1%ig%id%ik",
      "%io%is%iy%i5%iz%i9!!!!!!!mmDEVANAGARIjpj1&ig&id&ik&io&is&iy&i5&iz&i9%bA&U&KA&NA&PA&RA&VI%frb",
      "!DEVANAGARIfSPACINGng%ngme%ihngme%ngid&ik&rb%PUSHPIKA$GAPvt$u9$HEADSTROKE$fxz$JAIN OM$bAY",
      "$jkfAY!KAYAH LIjpj1&ig&id&ik&io&is&iy&i5&iz&i9%bKA&kw&GA&kh&SA&kj&ZA&kr&TA&HTA&NA&PA&lf&MA",
      "&DA&BA&RA&YA&LA&WA&k3&HA&VA&CA&A&OE&I&OO%jkUE&E&U&EE&O%j5PLOPHU&CALYA*PLOPHU%fCWI&SHYA",
      "!REJANGbKA%GA%kh%TA%DA%NA%PA%BA%MA%CA%JA%kr%SA%RA%LA%YA%WA%HA%MBA%NGGA%NDA%NYJA%A$jkfI&U&E",
      "&AI&O&AU&EU&EA$pdfNG&N&R&H$me!!!!!!!!!!!!REJANGo6ij!vsCHOSEONG TIKEUT-MIEUM%TIKEUT-PIEUP",
      "%TIKEUT-SIOS%TIKEUT-CIEUC%zs%RIEUL-SSANGKIYEOK%RIEUL-TIKEUT%RIEUL-SSANGTIKEUT%z1%z2",
      "%RIEUL-SSANGPIEUP%RIEUL-KAPYEOUNPIEUP%RIEUL-SIOS%RIEUL-CIEUC%RIEUL-KHIEUKH%MIEUM-KIYEOK",
      "%MIEUM-TIKEUT%MIEUM-SIOS%PIEUP-SIOS-THIEUTH%PIEUP-KHIEUKH%PIEUP-HIEUH%SSANGSIOS-PIEUP",
      "%IEUNG-RIEUL%IEUNG-HIEUH%SSANGCIEUC-HIEUH%SSANGTHIEUTH%PHIEUPH-HIEUH%HIEUH-SIOS",
      "%SSANGYEORINHIEUH!!!!JAVANESEfPANYANGGA%CECAK%LAYAR%WIGNYAN$bA%I KAWI%I%II%U%PA CEREK",
      "%khLELET*RASWADI%E%AI%O%KA&SASAK&um%GA&um%kh%CA&um%JA%krum%JAwf%kr%ls&wf%lt&wf%NAum%TA&um%DA",
      "&wf%NA%PA&um%BA&um%MA%YA%RA&AGUNG%LA%WA%SAum&wf%SA%HA$fCECAK TELU$jkfTARUNG&TOLONG&WULU",
      "*MELIK&SUKU*MENDUT&TALING&DIRGA MURE&PEPET$pdfKERET&PENGKAL&CAKRA$PANGKON$icRERENGGAN",
      "$iaRERENGGAN$PADA ANDAP%MADYA%LUHUR%WINDU%PANGKAT%LINGSA%LUNGSI%ADEG&ADEG%PISELEH",
      "$j7PADA PISELEH!!JAVANESE PANGRANGKEP$jpj1%ig%id%ik%io%is%iy%i5%iz%i9!!!!",
      "!JAVANESE PADA TIRTA TUMETES%ISEN-ISEN!MYANMARbSHANlx&kp&mz&l4&l7$fSHAN SAW",
      "$npbSHAN REDUPLICATION$bTAI LAINGkr*FA*GA*lx*JA*mz*lt*mk*l4$TAI LAINGjpj1*ig*id*ik*io*is*iy",
      "*i5*iz*i9$bTAI LAINGog*DA*lv*BA*l7!!CHAMbA%I%U%E%AI%O%KA%kw%GA%lx%NGUE%kh%kp%CHHA%JA%mz%NHUE",
      "%NHA%NHJA%TA%k3%DA%lv%NUE%NA%lt%PA%PPA%lf%BA%l7%MUE%MA%BBA%YA%RA%LA%VA%ml%SA%HA$jkfAA&I&II",
      "&EI&U&OE&O&AI&AU&UE$pdfYA&RA&LA&WA!!!!!!!!!!CHAMbifK&G&NG$pdfifNG$bifCH&T&N&P&Y&R&L&SS",
      "$pdfifM*H!!!CHAMjpj1%ig%id%ik%io%is%iy%i5%iz%i9!!!CHAMl8SPIRAL%nq%ihnq%lznq",
      "!MYANMARbKHAMTI GA&CA&kp&JA&mz&kr&ls&mc&lt&mk&lv&NA&SA&HA&HHA&FA$npbKHAMTI REDUPLICATION",
      "$bKHAMTI XA&ZA&RA$LOGOGRAM KHAMTI OAY&QN&HM$irAITONok&ig&id$bAITON RA$fPAOvzj5%TAI LAINGu2",
      "*u3$bSHWE PALAUNGkp*kj!TAI VIETbjvKO&kgKO&jvKHO&kgKHO&jvKHHO&kgKHHO&jvGO&kgGO&jvNGO&kgNGO",
      "&jvCO&kgCO&jvCHO&kgCHO&jvSO&kgSO&jvNYO&kgNYO&jvDO&kgDO&jvTO&kgTO&jvTHO&kgTHO&jvNO&kgNO&jvBO",
      "&kgBO&jvPO&kgPO&jvPHO&kgPHO&jvFO&kgFO&jvMO&kgMO&jvYO&kgYO&jvRO&kgRO&jvLO&kgLO&jvVO&kgVO&jvHO",
      "&kgHO&jvO&kgO%MAI KANG%jkAA&I&UE&U&E&O%MAI KHIT%jkIA&UEA&UA&AUE&AY&AN&AM%j5MAI EK*NUENG*THO",
      "*SONG"]⟩,
    ⟨0xAADB, [
      "!TAI VIETirKON&NUENG&SAM&HO HOI&KOI KOI!MEETEI MAYEKbE&O&kp&kr&ls&mc&lt&mk&l4&kj&ml%jkfII*UU",
      "*AAI*AU*AAU%CHEIKHAN%AHANG KHUDAM%ANJI%rcREPETITIONij%r7REPETITIONij%jkfmx%me!!!!!!!!!!",
      "!ETHIOPICrcTTHU%TTHI%TTHAA%TTHEE%TTHE%TTHO!!!ETHIOPICrcDDHU%DDHI%DDHAA%DDHEE%DDHE%DDHO!!",
      "!ETHIOPICrcDZU%DZI%DZAA%DZEE%DZE%DZO!!!!!!!!!!ETHIOPICrcCCHHA%CCHHU%CCHHI%CCHHAA%CCHHEE",
      "%CCHHE%CCHHO!!ETHIOPICrcBBA%BBU%BBI%BBAA%BBEE%BBE%BBO!!locbuzna&A REVERSED-SCHWA",
      "&BLACKLETTER E&uzE&EaFLOURISH&LENIS F&o8Gave&LaksLAZY S+ihiwjo+iwjq&Mave&Nave&ENGave",
      "&BLACKLETTER O+aiq&j6Oaiq&ksOE&j7OEaiq,jniq*O OPEN-O,aiq&STIRRUP R$bceRaiaLEG",
      "$cbR WITHOUT HANDLE&ihR&Rave&ihRave&o8R+ajq&BASELINE ESH&UalpiaLEG*i2alpiaLEG&UI&j7UI&Uaicip",
      "&pa*ajviajq,icSERIF&Xajviajq+j9icLEG;gjviajq;aSERIF&YalpiaLEG!nplcakslc$bcHENG&LaksLAZY S",
      "+iwjo&Uaicip!locbSAKHA YAT&raE&j6OE&UO&ksna!owbcems!locbDZn8ambip&TSn8ambip&j7Raiwjo!npbcj7W",
      "%icm6%iam6!!!!!CHEROKEEcbA&E&I&O&U&V&GA&KA&GE&GI&GO&GU&GV&HA&HE&HI&HO&HU&HV&LA&LE&LI&LO&LU",
      "&LV&MA&ME&MI&MO&MU&NA&HNA&NAH&NE&NI&NO&NU&NV&QUA&QUE&QUI&QUO&QUU&QUV&SA&S&SE&SI&SO&SU&SV&DA",
      "&TA&DE&TE&DI&TI&DO&DU&DV&DLA&TLA&TLE&TLI&TLO&TLU&TLV&nv&TSE&TSI&TSO&TSU&TSV&WA&WE&WI&WO&WU",
      "&WV&YA!MEETEI MAYEKbKOK&SAM&LAI&MIT&PA&NA&CHIL&TIL&KHOU&NGOU&THOU&WAI&t1&HUK&UN&I&PHAM&ATIYA",
      "&GOK&JHAM&RAI&BA&JIL&DIL&GHOU&DHOU&BHAM&KOKxh&LAIxh&MITxh&PAxh&NAxh&TILxh&NGOUxh&Ixh%jkfONAP",
      "*INAP*ANAP*YENAP*SOUNAP*UNAP*CHEINAP*NUNG%CHEIKHEI%LUM IYEK%APUN IYEK!!!MEETEI MAYEKjpj1&ig",
      "&id&ik&io&is&iy&i5&iz&i9"]⟩,
    ⟨0xD7B0, [
      "!vsJUNGSEONG O-YEO%O-O-I%YO-A%YO-AE%YO-EO%U-YEO%U-I-I%YU-AE%YU-O%EU-A%EU-EO%EU-E%EU-O%I-YA-O",
      "%I-YAE%I-YEO%I-YE%I-O-I%I-YO%I-YU%I-I%ARAEA-A%ARAEA-E!!!!!vsJONGSEONG NIEUN-RIEUL",
      "%NIEUN-CHIEUCH%zx%SSANGTIKEUT-PIEUP%TIKEUT-PIEUP%TIKEUT-SIOS%TIKEUT-SIOS-KIYEOK%TIKEUT-CIEUC",
      "%TIKEUT-CHIEUCH%TIKEUT-THIEUTH%RIEUL-SSANGKIYEOK%RIEUL-KIYEOK-HIEUH%SSANGRIEUL-KHIEUKH",
      "%RIEUL-MIEUM-HIEUH%RIEUL-PIEUP-TIKEUT%RIEUL-PIEUP-PHIEUPH%RIEUL-YESIEUNG",
      "%RIEUL-YEORINHIEUH-HIEUH%KAPYEOUNRIEUL%MIEUM-NIEUN%MIEUM-SSANGNIEUN%SSANGMIEUM",
      "%MIEUM-PIEUP-SIOS%MIEUM-CIEUC%PIEUP-TIKEUT%PIEUP-RIEUL-PHIEUPH%PIEUP-MIEUM%SSANGPIEUP%z8",
      "%PIEUP-CIEUC%PIEUP-CHIEUCH%SIOS-MIEUM%SIOS-KAPYEOUNPIEUP%SSANGSIOS-KIYEOK%SSANGSIOS-TIKEUT",
      "%SIOS-PANSIOS%SIOS-CIEUC%SIOS-CHIEUCH%SIOS-THIEUTH%SIOS-HIEUH%PANSIOS-PIEUP",
      "%PANSIOS-KAPYEOUNPIEUP%YESIEUNG-MIEUM%YESIEUNG-HIEUH%CIEUC-PIEUP%CIEUC-SSANGPIEUP%SSANGCIEUC",
      "%PHIEUPH-SIOS%PHIEUPH-THIEUTH"]⟩,
    ⟨0xFB00, [
      "!locm8FF&FI&FL&FFI&FFL&j9S T&ST!!!!!!!!!!!!!ARMENIANcm8MEN NOW*ECH*INI&VEW NOW&MEN XEH!!!!!",
      "!HEBREWbYODaHIRIQ$s6JUDEO-SPANISH VARIKA$m8YIDDISH YOD YOD PATAH$bALTERNATIVEt2%WIDEjj&DALET",
      "&HE&nu&LAMED&ifMEM&tc&TAV%ALTERNATIVEi3f%nranrii*SINii*pggnrii,SINii%jjaPATAH*QAMATS*MAPIQ",
      "%BETapg%riapg%DALETapg%HEaMAPIQ%VAVapg%slapg!!HEBREWbTETapg%YODapg%ifnuapg%nuapg%LAMEDapg!",
      "!HEBREWbMEMapg!!HEBREWblwapg%reapg!!HEBREWbifPEapg%PEapg!!HEBREWbTSADIapg%QOFapg%tcapg%nrapg",
      "%TAVapg%VAVaHOLAM%BETaRAFE%nuaRAFE%PEaRAFE$m8jjLAMED!qdbjjWASLAimd*ifd%BEEHimd&ifd&itd&j0d",
      "%PEHimd&ifd&itd&j0d%BEHEHimd&ifd&itd&j0d%TTEHEHimd&ifd&itd&j0d%TEHEHimd&ifd&itd&j0d%TTEHimd",
      "&ifd&itd&j0d%VEHimd&ifd&itd&j0d%PEHEHimd&ifd&itd&j0d%DYEHimd&ifd&itd&j0d%NYEHimd&ifd&itd&j0d",
      "%TCHEHimd&ifd&itd&j0d%TCHEHEHimd&ifd&itd&j0d%DDAHALimd&ifd%DAHALimd&ifd%DULimd&ifd%DDALimd",
      "&ifd%JEHimd&ifd%RREHimd&ifd%KEHEHimd&ifd&itd&j0d%GAFimd&ifd&itd&j0d%GUEHimd&ifd&itd&j0d",
      "%NGOEHimd&ifd&itd&j0d%moGHUNNAimd*ifd%RNOONimd&ifd&itd&j0d%n4ajfibimd,ifd&GOALimd*ifd*itd",
      "*j0d&DOACHASHMEEimd*ifd*itd*j0d%jfBARREEimd*ifd*amyibimd:ifd$iriiib&ie%idjeib*ie%ikjeib*ie",
      "*ktjrib,ie%iojeib*ie%ihixi2ie%idjexmib+ie%jq%cocib*ie%WASLAib!!!!!!!!!!!!!!!!!qdbNGimd&ifd",
      "&itd&j0d%Uimd&ifd%OEimd&ifd%YUimd&ifd%Uamyibimd%VEimd&ifd%KIRGHIZ OEimd*ifd&YUimd*ifd%Eimd",
      "&ifd&itd&j0d%UIGHUR KAZAKH KIRGHIZjjkuitd:j0d$m8jfamyibajjimd;ifd:AEimd;ifd:muimd;ifd:Uimd",
      ";ifd:OEimd;ifd:YUimd;ifd:Eimd;ifd;itd%UIGHUR KIRGHIZjfamyibajjkuimd>ifd>itd$bFARSIjfimd*ifd",
      "*itd*j0d$m8jfamyibaj8imd:jzimd:i1imd:jjkuimd:jfimd%p4aj8imd*jzimd*lhimd*i1imd*jjkuimd*jfimd",
      "%p5aj8imd*jzimd*lhimd*i1imd*jjkuimd*jfimd%t3aj8imd*i1imd*jjkuimd*jfimd%j8ajzimd*i1imd",
      "%jzaj8imd*i1imd%lhaj8imd*jzimd*i1imd%oeaj8imd*jzimd*lhimd*i1imd%pjajzimd*i1imd%DADaj8imd",
      "*jzimd*lhimd*i1imd%ocajzimd*i1imd%ZAHai1imd%ncaj8imd*i1imd%q4aj8imd*i1imd%piaj8imd*jzimd",
      "*lhimd*i1imd*jjkuimd*jfimd%osajzimd*i1imd*jjkuimd*jfimd%nuajjimd*j8imd*jzimd*lhimd*mwimd",
      "*i1imd*jjkuimd*jfimd%mwaj8imd*jzimd*lhimd*i1imd*jjkuimd*jfimd%i1aj8imd*jzimd*lhimd*i1imd",
      "*jjkuimd*jfimd%moaj8imd*jzimd*lhimd*i1imd*jjkuimd*jfimd%n4aj8imd*i1imd*jjkuimd*jfimd",
      "%jfaj8imd*jzimd*lhimd*i1imd*jjkuimd*jfimd%THALasrjjimd%nnasrjjimd%jjkuasrjjimd",
      "%SHADDAaDAMMATANimd*KASRATANimd*twimd*u8imd*s7imd*srjjimd%jfamyibannifd:r5ifd:i1ifd:moifd",
      ":jjkuifd:jfifd%p4annifd*r5ifd*i1ifd*moifd*jjkuifd*jfifd%p5annifd*r5ifd*i1ifd*moifd*jjkuifd",
      "*jfifd%t3annifd*r5ifd*i1ifd*moifd*jjkuifd*jfifd%piajjkuifd*jfifd%osajjkuifd*jfifd%nuajjifd",
      "*mwifd*i1ifd*jjkuifd*jfifd%mwai1ifd*jjkuifd*jfifd%i1ajjifd*i1ifd%moannifd*r5ifd*i1ifd*moifd",
      "*jjkuifd*jfifd%jjkuasrjjifd%jfannifd*r5ifd*i1ifd*moifd*jjkuifd*jfifd*myibaj8itd:jzitd:lhitd",
      ":i1itd:n4itd%p4aj8itd*jzitd*lhitd*i1itd*n4itd%p5aj8itd*jzitd*lhitd*i1itd*n4itd%t3ai1itd",
      "%j8ajzitd*i1itd%jzaj8itd*i1itd%lhaj8itd*i1itd%oeaj8itd*jzitd*lhitd*i1itd%pjajzitd*lhitd",
      "*i1itd%DADaj8itd*jzitd*lhitd*i1itd%ocajzitd%ZAHai1itd%ncaj8itd*i1itd%q4aj8itd*i1itd%piaj8itd",
      "*jzitd*lhitd*i1itd%osajzitd*i1itd%nuaj8itd*jzitd*lhitd*mwitd*i1itd%mwaj8itd*jzitd*lhitd",
      "*i1itd*n4itd%i1aj8itd*jzitd*lhitd*i1itd%moaj8itd*jzitd*lhitd*i1itd*n4itd%n4aj8itd*i1itd",
      "*srjjitd%jfaj8itd*jzitd*lhitd*i1itd*n4itd*myibai1j0d:n4j0d%p4ai1j0d*n4j0d%p5ai1j0d*n4j0d",
      "%t3ai1j0d*n4j0d%oeai1j0d*n4j0d%qgai1j0d*n4j0d%nuamwj0d*i1j0d%mwai1j0d%moai1j0d*n4j0d",
      "%jfai1j0d*n4j0d%SHADDAatwj0d*u8j0d*s7j0d%ocajjkuimd*jfimd%ncajjkuimd*jfimd%q4ajjkuimd*jfimd",
      "%oeajjkuimd*jfimd%qgajjkuimd*jfimd%jzajjkuimd*jfimd%j8ajjkuimd*jfimd%lhajjkuimd*jfimd",
      "%pjajjkuimd*jfimd%DADajjkuimd*jfimd%qgaj8imd*jzimd*lhimd*i1imd*nnimd%oeannimd%pjannimd",
      "%DADannimd%ocajjkuifd*jfifd%ncajjkuifd*jfifd%q4ajjkuifd*jfifd%oeajjkuifd*jfifd%qgajjkuifd",
      "*jfifd%jzajjkuifd*jfifd%j8ajjkuifd*jfifd%lhajjkuifd*jfifd%pjajjkuifd*jfifd%DADajjkuifd*jfifd",
      "%qgaj8ifd*jzifd*lhifd*i1ifd*nnifd%oeannifd%pjannifd%DADannifd%qgaj8itd*jzitd*lhitd*i1itd",
      "%oean4itd%qgan4itd%ocai1itd%oeaj8j0d*jzj0d*lhj0d%qgaj8j0d*jzj0d*lhj0d%ocai1j0d%ZAHai1j0d",
      "%jjaygifd+imd!ORNATEicma$iama!qdm8RAHIMAHU ALLAAH%RADI ALLAAHU ANH*ANHAA*ANHUM*ANHUMAA",
      "*ANHUNNA%SALLALLAAHU ALAYHI WA-AALIH%ALAYHI AS-SALAAM%ALAYHIM AS-SALAAM%ALAYHIMAA AS-SALAAM",
      "%ALAYHI AS-SALAATU WAS-SALAAM%QUDDISA SIRRAH%SALLALLAHU ALAYHI WAAALIHEE WA-SALLAM",
      "%ALAYHAA AS-SALAAM%TABAARAKA WA-TAAALAA%RAHIMAHUM ALLAAH%p5aj8ai1itd*jzaj8ifd:itd,i1itd",
      "*lhai1itd*i1aj8itd,jzitd,lhitd%j8ai1ajzifd:itd%jzai1ajfifd,jjkuifd%oeajzaj8itd*j8ajzitd",
      ",jjkuifd*i1ajzifd:itd,j8itd,i1ifd:itd%pjajzajzifd:itd*i1ai1ifd%qgajzai1ifd:itd*j8ajfifd",
      "*i1alhifd:itd,i1ifd:itd%DADajzajjkuifd*lhai1ifd:itd%ocai1ajzifd:itd,i1itd,jfifd%ncaj8ai1ifd",
      "*i1ai1ifd:itd,jjkuifd%q4ai1ai1ifd,jfifd,jjkuifd%pialhai1ifd:itd%osai1ajzifd,i1ifd",
      "%mwajzai1ifd,jfifd,jjkuifd*j8aj8itd:ifd*lhai1ifd:itd*i1ajzifd:itd%i1ajzaj8itd,i1itd,jfifd",
      "*j8ajzitd,i1itd*lhaj8itd,i1itd!!!qdm8i1aj8alhitd%n4ai1aj8itd,i1itd%moajzai1itd,jjkuifd",
      "*j8ai1ifd:itd,jjkuifd*i1ajfifd,jjkuifd%jfai1ai1ifd:itd%p4alhajfifd%p5aj8ajfifd,jjkuifd",
      "*lhajfifd,jjkuifd*i1ajfifd,jjkuifd%j8ai1ajfifd*jzajjkuifd*i1ajjkuifd%oealhajjkuifd",
      "%pjajzajfifd%qgajzajfifd%DADajzajfifd%mwaj8ajfifd*i1ajfifd%jfajzajfifd*j8ajfifd*i1ajfifd",
      "%i1ai1ajfifd%osai1ajfifd%moajzajfifd%osai1ajzitd%mwajzai1itd%ncai1ajfifd%nuai1ajfifd",
      "%moaj8ajzitd%i1alhajfifd%mwaj8ai1itd%nuai1ai1ifd%mwaj8ai1ifd%moaj8ajzifd%j8ajzajfifd",
      "%jzaj8ajfifd%i1aj8ajfifd%piai1ajfifd%p4ajzajfifd%nuai1ai1itd%ncaj8ai1itd%pjai1ai1itd",
      "%oealhajfifd%moaj8ajfifd!!!!!!!!qdm8SALAAMUHU ALAYNAA"]⟩,
    ⟨0xFDF0, [
      "!qdm8SALLA USED AS KORANICkifimd%QALA USED AS KORANICkifimd%ALLAHimd%AKBARimd%MOHAMMADimd",
      "%SALAMimd%RASOULimd%ALAYHEimd%WASALLAMimd%SALLAimd%SALLALLAHOU ALAYHE WASALLAM",
      "%JALLAJALALOUHOU!RIALf!qdm8BISMILLAH AR-RAHMAN AR-RAHEEM%SUBHAANAHU WA TAAALAA%AZZA WA JALL!",
      "!!!!!!!!!!!!!!!!PRESENTATIONdmtixk2*rrk2+lqki*nj*th*okij*nxij*icinv9ja*iainv9BRAKCET*jnwp!!!",
      "!!!!mmm8ici6%iai6$ihjoici6&iai6$kvici6%iai6$CONJOININGkv$m8ici6ie%iai6ie$joici6ie%iai6ie",
      "$kvici6ie%iai6ie$CONJOININGkvie$sdTITLOici6&iai6!PRESENTATIONdmtixidiiLEADER*EMmg*ENmg*jvkq",
      "*WAVYjvkq*icma*iama*icooja*iaooja*icqmo9ja*iaqmo9ja*icilv9ja*iailv9ja*icihlmja*iaihlmja",
      "*iclmja*ialmja*icneja*ianeja*icinneja*iainneja!SESAMEii!inSESAMEii!PRESENTATIONdmtixicjbja",
      "*iajbja!s4wn!CENTRELINEwn!WAVYwn!ihWAVYwn!s4jvkq!CENTRELINEjvkq!WAVYjvkq!ck2$rrk2$lqki!!cth",
      "$nj$nxij$okij$EMmg$icma$iama$icooja$iaooja$icqmo9ja$iaqmo9ja$kxf$wb$ly$i3f$zp$k4f$k6f$m2f!",
      "!cpwo5$x3f$PERCENTf$zaAT!!!!!qdygimd$TATWEELaygib$DAMMATANimd$leFRAGMENT$KASRATANimd!",
      "!qdtwimd%j0d$u8imd%j0d$s7imd%j0d$SHADDAimd%j0d$SUKUNimd%j0d$bmyimd%jjavyibimd,ifd*myibimd",
      ",ifd%muamyibimd,ifd%jjamyieimd,ifd%jfamyibimd,ifd,itd,j0d%jjimd&ifd%p4imd&ifd&itd&j0d",
      "%p5MARBUTAimd*ifd&imd&ifd&itd&j0d%t3imd&ifd&itd&j0d%j8imd&ifd&itd&j0d%jzimd&ifd&itd&j0d",
      "%lhimd&ifd&itd&j0d%DALimd&ifd%THALimd&ifd%nnimd&ifd%r5imd&ifd%oeimd&ifd&itd&j0d%qgimd&ifd",
      "&itd&j0d%pjimd&ifd&itd&j0d%DADimd&ifd&itd&j0d%ocimd&ifd&itd&j0d%ZAHimd&ifd&itd&j0d%ncimd&ifd",
      "&itd&j0d%q4imd&ifd&itd&j0d%piimd&ifd&itd&j0d%osimd&ifd&itd&j0d%nuimd&ifd&itd&j0d%mwimd&ifd",
      "&itd&j0d%i1imd&ifd&itd&j0d%moimd&ifd&itd&j0d%n4imd&ifd&itd&j0d%muimd&ifd%jjkuimd*ifd%jfimd",
      "&ifd&itd&j0d$m8mwajjavyibimd;ifd,myibimd;ifd:ieimd;ifd+imd+ifd!!!j1WIDTH NO-BREAKpp!",
      "!FULLWIDTHokij$noij$kxf$x3f$PERCENTf$wb$vf$icma$iama$ly$i3f$k2$zp$lqki$o5$jpj1%ig%id%ik%io",
      "%is%iy%i5%iz%i9$nj$th$k4f$m2f$k6f$nxij$zaAT$loebA*B*C*D*E*F*G*H*I*J*K*L*M*N*O*P*Q*R*S*T*U*V",
      "*W*X*Y*Z$icjbja$pwo5$iajbja$kbmn$jvkq$komn$locbA*B*C*D*E*F*G*H*I*J*K*L*M*N*O*P*Q*R*S*T*U*V*W",
      "*X*Y*Z$icooja$ixkq$iaooja$jo$icinma$iainma!HALFWIDTHrrlqki$icneja$ianeja$rrk2$ueiwii%bWO&cA",
      "*I*U*E*O*YA*YU*YO*TU$y4PROLONGEDq6ij$uebA&I&U&E&O&KA&KI&KU&KE&KO&SA&SI&SU&SE&SO&TA&TI&TU&TE",
      "&TO&NA&NI&NU&NE&NO&HA&HI&HU&HE&HO&MA&MI&MU&ME&MO&YA&YU&YO&RA&RI&RU&RE&RO&WA&N%u0q6ij",
      "%SEMI-VOICEDq6ij$vsvt%bxd&zw&KIYEOK-SIOS&NIEUN&zz&z0&xe&zx&RIEUL&zs&z1&z2&RIEUL-SIOS",
      "&RIEUL-THIEUTH&RIEUL-PHIEUPH&zy&MIEUM&PIEUP&SSANGPIEUP&PIEUP-SIOS&SIOS&SSANGSIOS&v0&v1",
      "&SSANGCIEUC&w4&w5&w6&w7&HIEUH!!!!HALFWIDTHvsbA&AE&YA&YAE&EO&E!!!HALFWIDTHvsbYEO&YE&O&WA&WAE",
      "&OE!!!HALFWIDTHvsbYO&U&WEO&WE&WI&YU!!!HALFWIDTHvsbEU&YI&I!!!!FULLWIDTH CENTf$POUNDf$k5f$kv",
      "$BROKENi2$YENf$WONf!!HALFWIDTH FORMSjlix$i4h$jwh$iuh$jrh$iljb$injd!!!!!!!!!!",
      "!INTERLINEAR ANNOTATION ANCHOR%o2%TERMINATOR!OBJECT REPLACEMENTvh!REPLACEMENTvh!!",
      "!LINEAR BrcB008 A&B038 E&B028 I&B061 O&B010 U&B001 DA&B045 DE&B007 DI&B014 DO&B051 DU",
      "&B057 JA&B046 JE!!LINEAR BrcB036 JO&B065 JU&B077 KA&B044 KE&B067 KI&B070 KO&B081 KU&B080 MA",
      "&B013 ME&B073 MI&B015 MO&B023 MU&B006 NA&B024 NE&B030 NI&B052 NO&B055 NU&B003 PA&B072 PE",
      "&B039 PI&B011 PO&B050 PU&B016 QA&B078 QE&B021 QI&B032 QO!!LINEAR BrcB060 RA&B027 RE&B053 RI",
      "&B002 RO&B026 RU&B031 SA&B009 SE&B041 SI&B012 SO&B058 SU&B059 TA&B004 TE&B037 TI&B005 TO",
      "&B069 TU&B054 WA&B075 WE&B040 WI&B042 WO!!LINEAR BrcB017 ZA&B074 ZE!!LINEAR BrcB020 ZO",
      "&B025 A2&B043 A3&B085 AU&B071 DWE&B090 DWO&B048 NWA&B029 PU2&B062 PTE&B076 RA2&B033 RA3",
      "&B068 RO2&B066 TA2&B087 TWE&B091id!!!LINEAR BirB018&B019&B022&B034&B047&B049&B056&B063&B064",
      "&B079&B082&B083&B086&B089"]⟩,
    ⟨0x10080, [
      "!LINEAR B IDEOGRAM B100p0&B102 WOMAN&B104 DEER&B105 EQUID&B105F MARE&B105M STALLION",
      "&B106F EWE&B106M RAM&B107F SHE-GOAT&B107M HE-GOAT&B108F SOW&B108M BOAR&B109F COW&B109M BULL",
      "&B120 WHEAT&B121 BARLEY&B122 OLIVE&B123 SPICE&B125 CYPERUS%ykB127 KAPO&B128 KANAKO",
      "%IDEOGRAM B130 OIL&B131 WINE&B132%ykB133 AREPA&B135 MERI%IDEOGRAM B140 BRONZE&B141 GOLD&B142",
      "&B145 WOOL&B146&B150&B151m5&B152&B153&B154%ykB156 TURO2%IDEOGRAM B157&B158&B159 CLOTH&B160",
      "&B161&B162 GARMENT&B163 ARMOUR&B164&B165&B166&B167&B168&B169&B170&B171&B172&B173 MONTH&B174",
      "&B176 TREE&B177&B178&B179&B180&B181&B182&B183&B184&B185&B189&B190&B191 HELMET&B220 FOOTSTOOL",
      "&B225 BATHTUB&B230 SPEAR&B231h&B232&B233 SWORD&B234&B236&B240 WHEELED CHARIOT&B241 CHARIOT",
      "&B242 CHARIOT FRAME&B243 WHEEL&B245&B246%ykB247 DIPTE%IDEOGRAM B248&B249&B251&B252&B253",
      "&B254 DART&B255&B256&B257&B258&B259&VESSEL B155*B200*B201*B202*B203*B204*B205*B206*B207*B208",
      "*B209*B210*B211*B212*B213*B214*B215*B216*B217*B218*B219*B221*B222*B226*B227*B228*B229*B250",
      "*B305!!!!!!AEGEANr7o2kq&ii$tyij!!!!!AEGEANkxig%id%ik%io%is%iy%i5%iz%i9%ka%mf%po%qs%nb%q5%m4",
      "%r1%mr%igi7%idi7%iki7%ioi7%isi7%iyi7%i5i7%izi7%i9i7%igjh%idjh%ikjh%iojh%isjh%iyjh%i5jh%izjh",
      "%i9jh%kajh%mfjh%pojh%qsjh%nbjh%q5jh%m4jh%r1jh%mrjh!!!!AEGEAN WEIGHT BASE UNIT%v2w8%SECONDw8",
      "%s8w8%FOURTHw8$DRYyzv2w8$LIQUIDyzv2w8$yzSECONDw8%s8w8!owACROPHONIC ATTICigm9*i6*DRACHMA&is",
      "&nb&isi7*jh&nbjh&isx2&kax2&nbx2&igi7x2&isi7x2&igjhx2&isjhx2*w9&kaw9&nbw9&igi7w9&isi7w9",
      "&igjhw9&kajhw9&nbjhw9&kaMNAS%HERAEUMigPLETHRON%ynig%HERMIONIANig%EPIDAUREANid%ynid",
      "%CYRENAICidDRACHMAS%EPIDAUREANidDRACHMAS%TROEZENIANis&ka*ped%HERMIONIANka%MESSENIANka%ynka",
      "&po%TROEZENIANnb*ped%HERMIONIANnb%ynnb&igi7&iki7%EPIDAUREANisi7%TROEZENIANisi7%ynisi7",
      "%CARYSTIANisi7%NAXIANisi7%ynigjh&isjh%DELPHICisMNAS%STRATIANnbMNAS$igi6f*ped$idvvf$ikrtf",
      "$YEARf$TALENTf$DRACHMAf$OBOLf$idOBOLSf$ikOBOLSf$ioOBOLSf$isOBOLSf$METRETESf$KYATHOS BASEf",
      "$LITRAf$OUNKIAf$XESTESf$ARTABEf$AROURAf$GRAMMAf$TRYBLION BASEf$j1f$igm9f$SINUSOIDf",
      "$INDICTIONf!NOMISMAf!!ROMAN SEXTANSf$UNCIAf$SEMUNCIAf$SEXTULAf$DIMIDIA SEXTULAf$SILIQUAf",
      "$DENARIUSf$QUINARIUSf$SESTERTIUSf$DUPONDIUSf$ASf$CENTURIALf!ASCIAir!!!!owirTAUof"]⟩,
    ⟨0x101D0, [
      "!PHAISTOS DISCfPEDESTRIAN&PLUMEDqi&TATTOOEDqi&CAPTIVE&CHILD&WOMAN&HELMET&GAUNTLET&TIARA&h",
      "&BOW&SHIELD&CLUB&MANACLES&MATTOCK&SAW&LID&BOOMERANG&CARPENTRY PLANE&DOLIUM&COMB&SLING&COLUMN",
      "&BEEHIVE&SHIP&m5&HIDE&BULLS LEG&CAT&RAM&EAGLE&DOVE&TUNNY&BEE&PLANE TREE&VINE&PAPYRUS&ROSETTE",
      "&LILY&OXt8&FLUTE&GRATER&STRAINER&cAXE&WAVY BAND&mmrwiq"]⟩,
    ⟨0x10280, [
      "!LYCIANbA%E%B%BH%G%D%I%W%Z%TH%J%K%Q%L%M%N%MM%NN%U%P%KK%R%S%T%TT%AN%EN%H%X!!!!CARIANbA%P2%D%L",
      "%UUU%R%LD%A2%Q%B%M%O%D2%T%SH%SH2%S%C-18%U%NN%X%N%TT2%P%SS%I%E%UUUU%K%K2%ND%UU%G%G2%ST%ST2%NG",
      "%II%C-39%TT%UUU2%RR%MB%MB2%MB3%MB4%LD2%E2%UUU3!!!!!!!!!!!!!!!!ovEPACTwdij%jpig&id&ik&io&is",
      "&iy&i5&iz&i9%kxka&mf&po&qs&nb&q5&m4&r1&mr&igi7&idi7&iki7&ioi7&isi7&iyi7&i5i7&izi7&i9i7!!!!",
      "!ljuibA&BE&KE&DE&E&VE&ZE&HE&mv&I&KA&EL&EM&EN&ESH&O&PE&m7&KU&ER&ES&TE&U&EKS&PHE&KHE&EF&ERS&pb",
      "&II&UU&ESS%usig&is&ka&nb!!!!!!!!!!ljuibYE&NORTHERN TSE&SOUTHERN TSE!GOTHICbAHSA%BAIRKAN%GIBA",
      "%DAGS%AIHVUS%QAIRTHRA%IUJA%HAGL%THIUTH%EIS%KUSMA%LAGUS%MANNA%NAUTHS%JER%URUS%PAIRTHRA%mr",
      "%RAIDA%SAUIL%TEIWS%WINJA%FAIHU%IGGWS%HWAIR%OTHAL%i9i7!!!!!!ljPERMICbAN&BUR&GAI&DOI&E&ZHOI",
      "&DZHOI&ZATA&DZITA&I&KOKE&LEI&MENOE&NENOE&VOOI&PEEI&REI&SII&TAI&U&CHERY&SHOOI&SHCHOOI&YRY",
      "&YERU&O&OO&EF&HA&TSIU&VER&YER&YERI&YAT&IE&YU&YA&IA!mmljPERMICbAN*DOI*ZATA*NENOE*SII!!!!!",
      "!UGARITICbALPA%qh%GAMLA%kw%p2%HO%WO%tb%HOTA%TET%YOD%nu%nr%sk%MEM%DHAL%lw%ZU%SAMKA%nc%PU%SADE",
      "%QOPA%RASHA%THANNA%q4%TO%I%U%SSU!!UGARITICr7yw!ljPERSIANfA&I&U&KA&KU&GA&GU&XA&CA&JA&JI&TA&TU",
      "&DA&DI&DU&k3&PA&BA&FA&NA&NU&MA&MI&MU&YA&VA&VI&RA&RU&LA&SA&ZA&kj&ml&HA!!!!",
      "!ljPERSIANfAURAMAZDAA&AURAMAZDAA-2&AURAMAZDAAHA&XSHAAYATHIYA&DAHYAAUSH&DAHYAAUSH-2&BAGA",
      "&BUUMISH%r7yw%kxig&id&ka&mf&i7"]⟩,
    ⟨0x10400, [
      "!DESERETebj9I*E*A*AH*O*OO&lpI*E*A*AH*O*OO&AY&OW&WU&YEE&H&PEE&BEE&TEE&DEE&CHEE&JEE&KAY&GAY&EF",
      "&VEE&ETH&THEE&ES&ZEE&ESH&ZHEE&ER&EL&EM&EN&ENG&OI&EW$cbj9I*E*A*AH*O*OO&lpI*E*A*AH*O*OO&AY&OW",
      "&WU&YEE&H&PEE&BEE&TEE&DEE&CHEE&JEE&KAY&GAY&EF&VEE&ETH&THEE&ES&ZEE&ESH&ZHEE&ER&EL&EM&EN&ENG",
      "&OI&EW!SHAVIANbPEEP%TOT%KICK%FEE%THIGH%SO%SURE%CHURCH%YEA%HUNG%BIB%DEAD%GAG%VOW%THEY%ZOO%yz",
      "%JUDGE%WOE%HA-HA%LOLL%MIME%IF%EGG%l3%ADO%ON%WOOL%OUT%AH%ROAR%lw%EAT%AGE%ICE%UP%OAK%OOZE%OIL",
      "%AWE%ARE%OR%AIR%ERR%ARRAY%EAR%IAN%YEW!OSMANYAbjj%BA%TA%JA%XA%kw%DEEL%RA%SA%SHIIN%lv%CAYN%GA",
      "%FA%QAAF%KAAF%LAAN%MIIN%NUUN%mu%HA%YA%A%E%I%O%U%AA%EE%OO!!!OSMANYAjpj1%ig%id%ik%io%is%iy%i5",
      "%iz%i9!!!!!!!OSAGEebA&AI&nc&AH&BRA&kp&EHCHA&E&EIN&HA&HYA&I&KA&EHKA&KYA&LA&MA&NA&O&OIN&PA",
      "&EHPA&SA&kj&TA&EHTA&nv&EHTSA&r8&lv&U&WA&kw&lx&ZA&pv!!!!!OSAGEcbA&AI&nc&AH&BRA&kp&EHCHA&E&EIN",
      "&HA&HYA&I&KA&EHKA&KYA&LA&MA&NA&O&OIN&PA&EHPA&SA&kj&TA&EHTA&nv&EHTSA&r8&lv&U&WA&kw&lx&ZA&pv!!",
      "!!!ELBASANbA%BE%CE%pb%DE%NDE%DHE%EI%E%FE%GE%GJE%HE%I%JE%KE%LE%LLE%ME%NE%NA%NJE%O%PE%QE%RE",
      "%RRE%SE%m7%TE%mv%U%VE%XE%Y%ZE%ZHE%GHE%GHAMMA%KHE!!!!!!!!!CAUCASIAN ALBANIANbALT&BET&GIM&DAT",
      "&EB&ZARL&EYN&ZHIL&TAS&kp&YOWD&pv&IRB&kj&LAN&INYA&XEYN&DYAN&CAR&JHOX&KAR&LYIT&HEYT&QAY&AOR",
      "&CHOY&pa&CYAY&MAQ&QAR&NOWC&DZYAY&SHAK&JAYN&ON&TYAY&FAM&DZAY&CHAT&PEN&GHEYS&RAT&SEYK&VEYZ",
      "&TIWR&SHOY&IWN&CYAW&CAYN&YAYD&PIWR&KIW!!!!!!!!!!!!CAUCASIAN ALBANIAN CITATIONij!VITHKUQIebA",
      "&BBE&BE&CE&pb&DE&DHE&EI&E&FE&GA!!VITHKUQIebHA&HHA&I&IJE&JE&KA&LA&og&ME&NE&NJE&O&PE&QA&RE!",
      "!VITHKUQIebSE&m7&TE&mv&U&VE&XE!!VITHKUQIebY&ZE!!VITHKUQIcbA&BBE&BE&CE&pb&DE&DHE&EI&E&FE&GA!",
      "!VITHKUQIcbHA&HHA&I&IJE&JE&KA&LA&og&ME&NE&NJE&O&PE&QA&RE!!VITHKUQIcbSE&m7&TE&mv&U&VE&XE!",
      "!VITHKUQIcbY&ZE"]⟩,
    ⟨0x10600, [
      "!LINEAR AfAB001&AB002&AB003&AB004&AB005&AB006&AB007&AB008&AB009&AB010&AB011&AB013&AB016",
      "&AB017&AB020&AB021&AB021F&AB021M&AB022&AB022F&AB022M&AB023&AB023M&AB024&AB026&AB027&AB028",
      "&A028B&AB029&AB030&AB031&AB034&AB037&AB038&AB039&AB040&AB041&AB044&AB045&AB046&AB047&AB048",
      "&AB049&AB050&AB051&AB053&AB054&AB055&AB056&AB057&AB058&AB059&AB060&AB061&AB065&AB066&AB067",
      "&AB069&AB070&AB073&AB074&AB076&AB077&AB078&AB079&AB080&AB081&AB082&AB085&AB086&AB087",
      "&A100-102&AB118&AB120&A120B&AB122&AB123&AB131A&AB131B&A131C&AB164&AB171&AB180&AB188&AB191",
      "&A301&A302&A303&A304&A305&A306&A307&A308&A309A&A309B&A309C&A310&A311&A312&A313A&A313B&A313C",
      "&A314&A315&A316&A317&A318&A319&A320&A321&A322&A323&A324&A325&A326&A327&A328&A329&A330&A331",
      "&A332&A333&A334&A335&A336&A337&A338&A339&A340&A341&A342&A343&A344&A345&A346&A347&A348&A349",
      "&A350&A351&A352&A353&A354&A355&A356&A357&A358&A359&A360&A361&A362&A363&A364&A365&A366&A367",
      "&A368&A369&A370&A371&A400-VAS&A401-VAS&A402-VAS&A403-VAS&A404-VAS&A405-VAS&A406-VAS&A407-VAS",
      "&A408-VAS&A409-VAS&A410-VAS&A411-VAS&A412-VAS&A413-VAS&A414-VAS&A415-VAS&A416-VAS&A417-VAS",
      "&A418-VAS&A501&A502&A503&A504&A505&A506&A508&A509&A510&A511&A512&A513&A515&A516&A520&A521",
      "&A523&A524&A525&A526&A527&A528&A529&A530&A531&A532&A534&A535&A536&A537&A538&A539&A540&A541",
      "&A542&A545&A547&A548&A549&A550&A551&A552&A553&A554&A555&A556&A557&A559&A563&A564&A565&A566",
      "&A568&A569&A570&A571&A572&A573&A574&A575&A576&A577&A578&A579&A580&A581&A582&A583&A584&A585",
      "&A586&A587&A588&A589&A591&A592&A594&A595&A596&A598&A600&A601&A602&A603&A604&A606&A608&A609",
      "&A610&A611&A612&A613&A614&A615&A616&A617&A618&A619&A620&A621&A622&A623&A624&A626&A627&A628",
      "&A629&A634&A637&A638&A640&A642&A643&A644&A645&A646&A648&A649&A651&A652&A653&A654&A655&A656",
      "&A657&A658&A659&A660&A661&A662&A663&A664!!!!!!!!!!LINEAR AfA701 A&A702 B&A703 D&A704 E",
      "&A705 F&A706 H&A707 J&A708 K&A709 L&A709-2 L2&A709-3 L3&A709-4 L4&A709-6 L6&A710 W&A711 X",
      "&A712 Y&A713ms&A714 ABB&A715 BB&A717 DD&A726 EYYY&A732 JE!!!!!!!!!!!LINEAR AfA800&A801&A802",
      "&A803&A804&A805&A806&A807"]⟩,
    ⟨0x10780, [
      "!npbceAA%srpknj&i6pknj%cAE&eB&Baip!!npbcDZn8+ambip,ps&DEZHn8&Dale+ip,gle&kdE&m3kdj6E&FENGn8",
      "&RAMSm5&eG&Gaip&eGaip&Haiq&eH&HENGaip&sfJaiqgip&LSn8&LZn8&LaBELT&eLaBELT&LambipgBELT&LEZH",
      "*ambip&j7Y+aBELT&Oaiq&eOE&m3ms&Q&j7Raj9LEG;gmbip&Rale+xr&eR&TCn8aps&TSn8+ambip&TESHn8&Tambip",
      "&Vaiaip!!npbceY%n7kiaiq%kdn7kiaiq%BILABIALuk%DENTALuk%LATERALuk%ALVEOLARuk%mbukambip%cSaps"]⟩,
    ⟨0x10800, [
      "!CYPRIOTrcA%E%I%O%U%JA!!!CYPRIOTrcJO!!CYPRIOTrcKA%KE%KI%KO%KU%LA%LE%LI%LO%LU%MA%ME%MI%MO%MU",
      "%NA%NE%NI%NO%NU%PA%PE%PI%PO%PU%RA%RE%RI%RO%RU%SA%SE%SI%SO%SU%TA%TE%TI%TO%TU%WA%WE%WI%WO!",
      "!CYPRIOTrcXA%XE!!!!CYPRIOTrcZA!!!CYPRIOTrcZO!IMPERIAL ARAMAICbq8&q9&ri&u6&HE&mu&sl&r6&TETH",
      "&sa&rm&r2&MEM&lw&re&t2&PE&r3&QOPH&tc&nr&TAW!!IMPERIAL ARAMAICo6f%kxig&id&ik&ka&mf&igi7*jh",
      "&kajh!PALMYRENEbq8%q9%ri%u6%HE%mu%sl%r6%TETH%sa%rm%r2%MEM%iflw%lw%re%t2%PE%r3%QOPH%tc%nr%TAW",
      "$p1FLEURON$o0FLEURON$kxig%id%ik%io%is%ka%mf!NABATAEANbifq8%q8%ifq9%q9%ri%u6%ifHE%HE%mu%sl%r6",
      "%TETH%ifsa%sa%ifrm%rm%ifr2%r2%ifMEM%MEM%iflw%lw%re%t2%PE%r3%QOPH%tc%ifnr%nr%TAW!!!!!!!!",
      "!NABATAEANkxig%id%ik%io$CRUCIFORMkxio$kxis%ka%mf%igi7"]⟩,
    ⟨0x108E0, [
      "!HATRANbq8%q9%ri%DALETH-RESH%HE%mu%ZAYN%r6%TETH%sa%rm%r2%MEM%lw%re%AYN%PE%r3%QOPH!!HATRANbnr",
      "%TAW!!!!!!HATRANkxig%is%ka%mf%igi7!PHOENICIANbALF%BET%GAML%DELT%HE%WAU%ZAI%HET%TET%YOD%nu",
      "%LAMD%MEM%lw%SEMK%nc%PE%SADE%QOF%ROSH%nr%TAU$kxig%ka%mf%igi7%id%ik!!!!PHOENICIANr7o2",
      "!LYDIANbA%B%G%D%E%V%I%Y%K%L%M%N%O%R%SS%T%U%F%Q%S%TT%AN%EN%LY%NN%C!!!!!!LYDIANpkij"]⟩,
    ⟨0x10980, [
      "!MEROITIC HIEROGLYPHICbA&E&I&O&YA&WA&BA&BA-2&PA&MA&NA&NA-2&NE&NE-2&RA&RA-2&LA&kw&HHA&SA&SA-2",
      "&SE&KA&QA&TA&TA-2&TE&TE-2&TO&DA%irVIDJ&VIDJ-2$CURSIVEbA&E&I&O&YA&WA&BA&PA&MA&NA&NE&RA&LA&kw",
      "&HHA&SA&qcSA&SE&KA&QA&TA&TE&TO&DA!!!!!MEROITIC CURSIVEp9tqur&igi6%LOGOGRAM RMT&IMN%kxig&id",
      "&ik&io&is&iy&i5&iz&i9&ka&mf&po&qs&nb&q5&m4!!!MEROITIC CURSIVEkxigi7&idi7&iki7&ioi7&isi7&iyi7",
      "&i5i7&izi7&i9i7&igjh&idjh&ikjh&iojh&isjh&iyjh&i5jh&izjh&i9jh&kajh&mfjh&pojh&qsjh&nbjh&q5jh",
      "&m4jh&r1jh&mrjh&igi7jh&idi7jh&iki7jh&ioi7jh&isi7jh&iyi7jh&i5i7jh&izi7jh&i9i7jh%p9igTWELFTH",
      "&idur&ikur&iour&isur&iyur&i5ur&izur&i9ur&kaur!KHAROSHTHIbA$jkfI&U&k7R!!KHAROSHTHIjkfE&O!!!!!",
      "!KHAROSHTHIjkr0ij$fihjqie%lr%mx$bKA%kw%GA%lx!!KHAROSHTHIbCA%kp%JA!!KHAROSHTHIbkr%ls%mc%lt%mk",
      "%l4%TA%k3%DA%lv%NA%PA%lf%BA%l7%MA%YA%RA%LA%VA%kj%ml%SA%ZA%HA%KKA%TTTHA%TTTA%VHA!!",
      "!KHAROSHTHIfi2ib%CAUDA%iiie!!!!!KHAROSHTHIme$jpig%id%ik%io$kxka%mf%igi7&jh$p9igi6!!!!!!!",
      "!KHAROSHTHIl8ii%cjd%jd%yji2%MANGALAM%LOTUS%nq%ihnq%LINES!!!!!!!!ljl9ARABIANbHE*r2*r6*MEM",
      "*QOPH*mu*nr*tc*q9*TAW*SAT*rm*lw*KHETH*r3*re*FE*jj*AYN*DHADHE*ri*u6*GHAYN*TETH*ZAYN*DHALETH",
      "*sa*THAW*THETH&kxig*nb&NUMERICwc$luARABIANbn4*mw*jz*i1*os*mu*ES-2*nn*p4*p5*ES-1*nu*mo*lh*pj",
      "*ES-3*pi*jj*nc*DAD*GEEM*DAL*q4*oc*r5*THAL*jf*t3*ZAH&kxig*ka*mf"]⟩,
    ⟨0x10AC0, [
      "!MANICHAEANbq8%q9%BHETH%ri%GHIMEL%u6%HE%mu$fUD$bsl%ZHAYIN%JAYIN%JHAYIN%r6%TETH%sa%rm%XAPH",
      "%KHAPH%r2%DHAMEDH%THAMEDH%MEM%lw%re%t2%AAYIN%PE%FE%r3%QOPH%XOPH%QHOPH%tc%nr%SSHIN%TAW$qkijib",
      "&ie!!!!!MANICHAEANkxig%is%ka%mf%igi7$l8k9%FLEURON%ihiiWITHINii%iiWITHINii%ii%idje%kqvt!!!!!!",
      "!!!!AVESTANbA%AA%AO%AAO%AN%AAN%AE%AEE%E%EE%O%OO%I%II%U%UU%KE%XE%XYE%XVE%GE%GGE%GHE%CE%JE%TE",
      "%mv%DE%DHE%TTE%PE%FE%BE%BHE%NGE%NGYE%NGVE%NE%NYE%NNE%ME%HME%YYE%YE%VE%RE%LE%SE%ZE%m7%ZHE",
      "%SHYE%SSHE%HE!!!!AVESTANqkij!TINYidjejgigiil8!cidjejgigiil8!kmidjejgigiil8$igiijgidjel8",
      "$idRINGSjgigjql8$igjqjgidRINGSl8!INSCRIPTIONAL PARTHIANbq8&q9&ri&u6&HE&mu&sl&r6&TETH&sa&rm",
      "&r2&MEM&lw&re&t2&PE&r3&QOPH&tc&nr&TAW!!!INSCRIPTIONAL PARTHIANkxig&id&ik&io&ka&mf&igi7*jh",
      "$PAHLAVIbq8&q9&ri&u6&HE&WAW-AYIN-RESH&sl&r6&TETH&sa&rm&r2&MEM-QOPH&lw&re&PE&r3&nr&TAW!!!!!",
      "!INSCRIPTIONAL PAHLAVIkxig&id&ik&io&ka&mf&igi7*jh!PSALTER PAHLAVIbq8&q9&ri&u6&HE",
      "&WAW-AYIN-RESH&sl&r6&sa&rm&r2&MEM-QOPH&lw&re&PE&r3&nr&TAW!!!!!!!!PSALTER PAHLAVIo6ij%j7o6ij",
      "%iojeal0+ii!!!!!!!!!!!!!PSALTER PAHLAVIkxig&id&ik&io&ka&mf&igi7"]⟩,
    ⟨0x10C00, [
      "!ljTURKICbn0A&n9A*AE&n0I&n9I*E&n0O*OE&n9OE&n0AB&n9AB&n0AEB&n9AEB&n0AG&n9AG&n0AEG&n9AEG&n0AD",
      "&n9AD&n0AED*EZ&n9EZ&n0AY&n9AY&n0AEY&n9AEY&n0AEK&n9AEK&n0OEK&n9OEK&n0AL&n9AL&n0AEL*ELT*EM*AN",
      "*AEN&n9AEN&n0ENT&n9ENT&n0ENC&n9ENC&n0ENY&n9ENY*ANG&n0ENG&n9AENG&n0EP*OP*IC*EC&n9EC&n0AQ&n9AQ",
      "&n0IQ&n9IQ&n0OQ&n9OQ&n0AR&n9AR&n0AER*AS*AES*l3&n9l3&n0ESH&n9ESH&n0AT&n9AT&n0AET&n9AET&n0OT",
      "*BASH"]⟩,
    ⟨0x10C80, [
      "!ljHUNGARIANebA*AA*EB*AMB*EC*ENC*ECS*ED*g*E*CLOSE E*EE*EF*EG*EGY*EH*I*II*EJ*EK*AK*UNK*EL*ELY",
      "*EM*EN*ENY*O*OO*NIKOLSBURG OE*RUDIMENTA OE*OEE*EP*EMP*ER*lpER*ES*ESZ*ET*ENT*ETY*ECH*U*UU",
      "*NIKOLSBURG UE*RUDIMENTA UE*EV*EZ*EZS*ENT-SHAPEDf*US!!!!!!!!!!!!!!ljHUNGARIANcbA*AA*EB*AMB",
      "*EC*ENC*ECS*ED*g*E*CLOSE E*EE*EF*EG*EGY*EH*I*II*EJ*EK*AK*UNK*EL*ELY*EM*EN*ENY*O*OO",
      "*NIKOLSBURG OE*RUDIMENTA OE*OEE*EP*EMP*ER*lpER*ES*ESZ*ET*ENT*ETY*ECH*U*UU*NIKOLSBURG UE",
      "*RUDIMENTA UE*EV*EZ*EZS*ENT-SHAPEDf*US!!!!!!!!ljHUNGARIANkxig&is&ka&nb&igi7*jh",
      "!HANIFI ROHINGYAbA&BA&PA&TA&ls&JA&CA&HA&kw&FA&DA&lt&RA&p6&ZA&SA&kj&KA&GA&LA&MA&NA&WA",
      "&KINNA WA&YA&KINNA YA&kh&kr&VA%jkA&I&U&E&O%ijSAKIN&NA KHONNA%fHARBAHAY&TAHALA&TANA&TASSI!!!!",
      "!!!!!HANIFI ROHINGYAjpj1&ig&id&ik&io&is&iy&i5&iz&i9"]⟩,
    ⟨0x10E60, [
      "!RUMIjpig%id%ik%io%is%iy%i5%iz%i9$kxka%mf%po%qs%nb%q5%m4%r1%mr%igi7%idi7%iki7%ioi7%isi7%iyi7",
      "%i5i7%izi7%i9i7$p9igi6&m9&s8%idvv!!YEZIDIbELIF%BE%PE%PHE%mv%SE%CIM%CHIM%CHHIM%HHA%XA%DAL%ZAL",
      "%RA%RHA%ZA%JA%SIN%nr%pj%DAD%TA%ZE%EYN%XHEYN%FA%VA&ped%os%nu%KHAF%GAF%mw%MIM%lw%UM%mu%OW%EW",
      "%HAY%YOT%ET!!YEZIDImmmyij%vyij$HYPHENATIONij!!!YEZIDIbmwaiiib%YOTakbib"]⟩,
    ⟨0x10F00, [
      "!ljSOGDIANbq8&ifq8&q9&ifq9&ri&HE&ifHE&mu&sl&r6&sa&rm&r2&MEM&lw&iflw+aixle&re&t2&pet2&PE&r3",
      "&ifr3+aixle&RESH-AYIN-DALETH&nr&TAW&ifTAW+aixle%kxig&id&ik&io&is&ka&mf&po&igi7%p9igi6",
      "%m8AYIN-DALETH!!!!!!!!!SOGDIANbq8%q9%ri%HE%mu%sl%r6%sa%rm%r2%MEM%lw%re%t2%PE%r3%RESH-AYIN%nr",
      "%TAW%FETH%LESH$v8nr$mmiiie%idjeie%iiib%idjeib%qtib&ie%ipib&ie%j9ipie%tcie%iqie$kxig%ka%mf",
      "%igi7$l8idixBARS+aje%jdaii%ids2aje%i6jdaii!!!!!!!!!!!!!!!!!!!!!!!ljUYGHURbq8&q9&GIMEL-HETH",
      "&mu&sl&ifr6&sa&rm&r2&MEM&lw&re&PE&r3&tc&nr&TAW&LESH%mmiiib*ie&idjeib+ie%l8i2&idBARS*je&ioje"]⟩,
    ⟨0x10FB0, [
      "!CHORASMIANbq8%cq8%q9%ri%u6%HE%mu%CURLEDmu%sl%r6%sa%rm%r2%MEM%lw%re%t2%PE%tc%nr%TAW$kxig%id",
      "%ik%io%ka%mf%igi7!!!!!!!!!!!!!!!!!!!!!ELYMAICbq8%q9%ri%u6%HE%mu%sl%r6%TETH%sa%rm%r2%MEM%lw",
      "%re%t2%PE%r3%QOPH%tc%nr%TAW$m8ZAYIN-YODH!!!!!!!!!!BRAHMIfng%lr%mx%x7%x8$bA%AA%I%II%U%UU%k7R",
      "&RR&L&LL%E%AI%O%AU%KA%kw%GA%lx%kh%CA%kp%JA%mz%kr%ls%mc%lt%mk%l4%TA%k3%DA%lv%NA%PA%lf%BA%l7",
      "%MA%YA%RA%LA%VA%kj%ml%SA%HA%og%ljTAMIL LLLA*p6*NNNA$jkfAA&BHATTIPROLU AA&I&II&U&UU&k7R*RR*L",
      "*LL&E&AI&O&AU$me$nq$ihnq$l8ii%ihii%kq%yji2%LOTUS!!!!!BRAHMIkxig%id%ik%io%is%iy%i5%iz%i9%ka",
      "%mf%po%qs%nb%q5%m4%r1%mr%igi7&jh$jpj1%ig%id%ik%io%is%iy%i5%iz%i9$fljTAMILme$bljTAMILlpE+O",
      "$jkfljTAMILlpE,O$bljTAMILog!!!!!!!!!!BRAHMIkxJOINER!KAITHIfng%lr%mx$bA%AA%I%II%U%UU%E%AI%O",
      "%AU%KA%kw%GA%lx%kh%CA%kp%JA%mz%kr%ls%mc%lt%DDDHA%mk%RHA%l4%TA%k3%DA%lv%NA%PA%lf%BA%l7%MA%YA",
      "%RA%LA%VA%kj%ml%SA%HA$jkfAA&I&II&U&UU&E&AI&O&AU$fme%oy$qkf$ENUMERATIONf$kxf$o6ij$iho6ij$nq",
      "$ihnq$jkfk7R!!!!!!!!!!!KAITHIkxfib!!!SORA SOMPENGbSAH&oc&BAH&CAH&DAH&GAH&MAH&NGAH&LAH&NAH",
      "&VAH&PAH&YAH&RAH&jz&KAH&JAH&NYAH&AH&EEH&IH&UH&OH&EH&MAE!!!!!!!!SORA SOMPENGjpj1&ig&id&ik&io",
      "&is&iy&i5&iz&i9!!!!!!!CHAKMAfng%lr%mx$bAA%I%U%E%KAA%KHAA%GAA%GHAA%NGAA%CAA%CHAA%JAA%JHAA",
      "%NYAA%TTAA%TTHAA%DDAA%DDHAA%NNAA%TAA%THAA%DAA%DHAA%NAA%PAA%PHAA%BAA%BHAA%MAA%YYAA%YAA%RAA",
      "%LAA%WAA%SAA%HAA$jkfA&I&II&U&UU&E&AI&O&AU&OI$Oij$AUij$me$MAAYYAA!!CHAKMAjpj1%ig%id%ik%io%is",
      "%iy%i5%iz%i9$o6ij$nq$ihnq$nxij$bLHAA$jkfAA&EI$bVAA!!!!!!!!!MAHAJANIbA%I%U%E%O%KA%kw%GA%lx%CA",
      "%kp%JA%mz%kr%ls%mc%lt%mk%l4%TA%k3%DA%lv%NA%PA%lf%BA%l7%MA%RA%LA%VA%SA%HA%p6$foy$qkf$o6ij",
      "$m8SHRI!!!!!!!!!!SHARADAfng%lr%mx$bA%AA%I%II%U%UU%k7R&RR&L&LL%E%AI%O%AU%KA%kw%GA%lx%kh%CA%kp",
      "%JA%mz%kr%ls%mc%lt%mk%l4%TA%k3%DA%lv%NA%PA%lf%BA%l7%MA%YA%RA%LA%og%VA%kj%ml%SA%HA$jkfAA&I&II",
      "&U&UU&k7R*RR*L*LL&E&AI&O&AU$fme%rb%x7%x8$OM$nq$ihnq$qkf$o2$SANDHIij$foy$jknpij$EXTRAlpjkij",
      "$SUTRAij$jkfPRISHTHAMATRA E$fksng$jpj1%ig%id%ik%io%is%iy%i5%iz%i9$EKAM$fxz$HEADSTROKE",
      "$CONTINUATIONf$o6MARK-1%MARK-2!!SINHALAqcjpig&id&ik&io&is&iy&i5&iz&i9%kxka&mf&po&qs&nb&q5&m4",
      "&r1&mr&igi7*jh!!!!!!!!!!!!KHOJKIbA%AA%I%U%E%AI%O%AU%KA%kw%GA%GGA%lx%kh%CA%kp%JA%JJA!",
      "!KHOJKIbkr%ls%mc%lt%mk%l4%TA%k3%DA%DDDA%lv%NA%PA%lf%BA%BBA%l7%MA%YA%RA%LA%VA%SA%HA%og$jkfAA",
      "&I&II&U&E&AI&O&AU$flr%me%oy%SHADDA$nq$ihnq$r7o2$o6ij$iho6ij$qkf$fSUKUN"]⟩,
    ⟨0x11280, [
      "!MULTANIbA%I%U%E%KA%kw%GA!!MULTANIblx!!MULTANIbCA%kp%JA%JJA!!MULTANIbkr%ls%mc%lt%DDDA%mk%l4",
      "%TA%k3%DA%lv%NA%PA%lf%BA!!MULTANIbl7%MA%YA%RA%LA%VA%SA%HA%p6%RHA$o6ij!!!!!!!KHUDAWADIbA%AA%I",
      "%II%U%UU%E%AI%O%AU%KA%kw%GA%GGA%lx%kh%CA%kp%JA%JJA%mz%kr%ls%mc%lt%DDDA%p6%mk%l4%TA%k3%DA%lv",
      "%NA%PA%lf%BA%BBA%l7%MA%YA%RA%LA%VA%kj%SA%HA$flr$jkfAA&I&II&U&UU&E&AI&O&AU$foy%me!!!!!",
      "!KHUDAWADIjpj1%ig%id%ik%io%is%iy%i5%iz%i9!!!!!!!GRANTHAfmmlrib%ng%lr%mx!!GRANTHAbA%AA%I%II%U",
      "%UU%k7R&L!!!GRANTHAbEE%AI!!!GRANTHAbOO%AU%KA%kw%GA%lx%kh%CA%kp%JA%mz%kr%ls%mc%lt%mk%l4%TA%k3",
      "%DA%lv%NA!!GRANTHAbPA%lf%BA%l7%MA%YA%RA!!GRANTHAbLA%og!!GRANTHAbVA%kj%ml%SA%HA!!mmBINDUie",
      "!GRANTHAfoy%rb$jkfAA&I&II&U&UU&k7R*RR!!!GRANTHAjkfEE&AI!!!GRANTHAjkfOO&AU$fme!!!GRANTHA OM!!",
      "!!!!!GRANTHA AUr0ij!!!!!!GRANTHAfPLUTA$bVEDIClr&ihlr%k7RR&LL$jkfk7L*LL!!!mmGRANTHAjpj1&ig&id",
      "&ik&io&is&iy!!!!mmGRANTHAbA&KA&NA&VI&PA"]⟩,
    ⟨0x11400, [
      "!NEWAbA%AA%I%II%U%UU%k7R&RR&L&LL%E%AI%O%AU%KA%kw%GA%lx%kh%NGHA%CA%kp%JA%mz%kr%NYHA%ls%mc%lt",
      "%mk%l4%TA%k3%DA%lv%NA%NHA%PA%lf%BA%l7%MA%MHA%YA%RA%RHA%LA%LHA%WA%kj%ml%SA%HA$jkfAA&I&II&U&UU",
      "&k7R*RR*L*LL&E&AI&O&AU$fme%ng%lr%mx%oy%rb%iflr$OM$SIDDHI$nq$ihnq$k2$GAPvt$qkf$jpj1%ig%id%ik",
      "%io%is%iy%i5%iz%i9$ihk2$PLACEHOLDERij!!NEWA INSERTIONf$SANDHIij$bVEDIClr$fx7%x8"]⟩,
    ⟨0x11480, [
      "!TIRHUTA ANJI$bA%AA%I%II%U%UU%k7R&RR&L&LL%E%AI%O%AU%KA%kw%GA%lx%kh%CA%kp%JA%mz%kr%ls%mc%lt",
      "%mk%l4%TA%k3%DA%lv%NA%PA%lf%BA%l7%MA%YA%RA%LA%VA%kj%ml%SA%HA$jkfAA&I&II&U&UU&k7R*RR*L*LL&E",
      "&lpE&AI&O&lpO&AU$fng%lr%mx%me%oy%rb$GVANG$qkf$OM!!!!!!!!!TIRHUTAjpj1%ig%id%ik%io%is%iy%i5%iz",
      "%i9"]⟩,
    ⟨0x11580, [
      "!xzbA%AA%I%II%U%UU%k7R&RR&L&LL%E%AI%O%AU%KA%kw%GA%lx%kh%CA%kp%JA%mz%kr%ls%mc%lt%mk%l4%TA%k3",
      "%DA%lv%NA%PA%lf%BA%l7%MA%YA%RA%LA%VA%kj%ml%SA%HA$jkfAA&I&II&U&UU&k7R*RR!!!xzjkfE&AI&O&AU$fng",
      "%lr%mx%me%oy%xz$nq$ihnq$o2ii%i2$REPETITION MARK-1%MARK-2%MARK-3$ntOF TEXTij",
      "$o6ijaTRIDENTgU-SHAPED ORNAMENTS,mqwk*RAYSgmqwk:ihwk:lzwk&ihjq+aRAYS&aihwk*lzwk*udwk",
      "*SEPTUPLEwk*s2gRAYS,idENCLOSURES,ioENCLOSURES$bTHREE-CIRCLEpeI%TWO-CIRCLEpeI*II%peU$jkfpeU",
      "*UU"]⟩,
    ⟨0x11600, [
      "!MODIbA%AA%I%II%U%UU%k7R&RR&L&LL%E%AI%O%AU%KA%kw%GA%lx%kh%CA%kp%JA%mz%kr%ls%mc%lt%mk%l4%TA",
      "%k3%DA%lv%NA%PA%lf%BA%l7%MA%YA%RA%LA%VA%kj%ml%SA%HA%og$jkfAA&I&II&U&UU&k7R*RR*L*LL&E&AI&O&AU",
      "$flr%mx%me%ARDHACANDRA$nq$ihnq$qkf$fHUVA!!!!!!!!!!!!MODIjpj1%ig%id%ik%io%is%iy%i5%iz%i9!!!!!",
      "!!MONGOLIANvaalk$kyva$ihvaalk$lzvaalk$vaaihlk$kyvaalk*ihlk$ksva&aihlk$SWIRLva&alk*ihlk",
      "$j7SWIRLvaaihlk!!!!!!!!!!!!!!!!!!!!TAKRIbA%AA%I%II%U%UU%E%AI%O%AU%KA%kw%GA%lx%kh%CA%kp%JA%mz",
      "%kr%ls%mc%lt%mk%l4%TA%k3%DA%lv%NA%PA%lf%BA%l7%MA%YA%RA%LA%VA%kj%SA%HA%p6$flr%mx$jkfAA&I&II&U",
      "&UU&E&AI&O&AU$fme%oy$bqckw$qkf!!!!!!!TAKRIjpj1%ig%id%ik%io%is%iy%i5%iz%i9"]⟩,
    ⟨0x11700, [
      "!AHOMbKA%kw%kh%NA%TA%peTA%PA%lf%BA%MA%JA%kp%k3%RA%LA%SA%kr%HA%A%DA%lv%GA%peGA%lx%l7%mz%peBA!",
      "!!AHOMpdfj0LA*RA*LIGATING RA$jkfA&AA&I&II&U&UU&E&AW&O&AI&AM$fKILLER!!!!!AHOMjpj1%ig%id%ik%io",
      "%is%iy%i5%iz%i9$kxka%mf$fco6%o6%RULAI$irVI$bCA%ls%mc%lt%mk%l4%og"]⟩,
    ⟨0x11800, [
      "!DOGRAbA%AA%I%II%U%UU%E%AI%O%AU%KA%kw%GA%lx%kh%CA%kp%JA%mz%kr%ls%mc%lt%mk%l4%TA%k3%DA%lv%NA",
      "%PA%lf%BA%l7%MA%YA%RA%LA%VA%kj%ml%SA%HA%p6$jkfAA&I&II&U&UU&k7R*RR&E&AI&O&AU$flr%mx%me%oy$qkf"]⟩,
    ⟨0x118A0, [
      "!WARANG CITIebNGAA*A*WI*YU*YA*YO*II*UU*E*O*ANG*GA*KO*ENY*YUJ*UC*ENN*ODD*TTE*NUNG*DA*AT*AM*BU",
      "*PU*HIYO*HOLO*HORR*HAR*SSUU*SII*VIYO%cbNGAA*A*WI*YU*YA*YO*II*UU*E*O*ANG*GA*KO*ENY*YUJ*UC*ENN",
      "*ODD*TTE*NUNG*DA*AT*AM*BU*PU*HIYO*HOLO*HORR*HAR*SSUU*SII*VIYO%jpj1&ig&id&ik&io&is&iy&i5&iz",
      "&i9%kxka&mf&po&qs&nb&q5&m4&r1&mr!!!!!!!!!!!!!WARANG CITI OM!DIVES AKURUbA&AA&I&II&U&UU&E!!",
      "!DIVES AKURUbO!!!DIVES AKURUbKA&kw&GA&lx&kh&CA&kp&JA!!DIVES AKURUbkr&ls!!DIVES AKURUblt&mk",
      "&l4&TA&k3&DA&lv&NA&PA&lf&BA&l7&MA&YA&YYA&RA&LA&VA&kj&ml&SA&HA&og&ZA%jkfAA*I*II*U*UU*E!",
      "!DIVES AKURUjkfAI*O!!!DIVES AKURUflr&ng&HALANTA%me%PREFIXED NASALf%j0YA%itRA%j0RA%foy%ihnq",
      "%GAPvt%ntOF TEXTij!!!!!!!!!!DIVES AKURUjpj1&ig&id&ik&io&is&iy&i5&iz&i9"]⟩,
    ⟨0x119A0, [
      "!NANDINAGARIbA%AA%I%II%U%UU%k7R&RR!!!NANDINAGARIbE%AI%O%AU%KA%kw%GA%lx%kh%CA%kp%JA%mz%kr%ls",
      "%mc%lt%mk%l4%TA%k3%DA%lv%NA%PA%lf%BA%l7%MA%YA%RA%LA%VA%kj%ml%SA%HA%og%p6$jkfAA&I&II&U&UU&k7R",
      "*RR!!!NANDINAGARIjkfE&AI&O&AU$flr%mx%me%rb%xz$HEADSTROKE$jkfPRISHTHAMATRA E"]⟩,
    ⟨0x11A00, [
      "!ZANABAZARjbbA%jkfI*UE*U*E*OE*O*AI*AU*kdI&r0ij%bKA&kw&GA&lx&kh&CA&kp&JA&kr&ls&mc&lt&mk&l4&TA",
      "&k3&DA&lv&NA&PA&lf&BA&l7&MA&nv&r8&DZA&DZHA&pv&ZA&-A&YA&RA&LA&VA&kj&ml&SA&HA&KSSA%ifpdij%fme",
      "&ng*alk&rzalk&lr&mx%CLUSTER-INITIALbRA%CLUSTER-FINALbYA*RA*LA*VA%itqiij%CLOSINGqiij%ijul&rn",
      "&ihrn&j9ul%itDOUBLE-LINEDqiij%CLOSING DOUBLE-LINEDqiij%SUBJOINER!!!!!!!!!SOYOMBObA$jkfI&UE&U",
      "&E&O&OE&AI&AU&k7R*L%r0ij$bKA%kw%GA%lx%kh%CA%kp%JA%mz%kr%ls%mc%lt%mk%l4%TA%k3%DA%lv%NA%PA%lf",
      "%BA%l7%MA%nv%r8%DZA%pv%ZA%-A%YA%RA%LA%VA%kj%ml%SA%HA%KSSA$fx7%x8$CLUSTER-INITIALbRA&LA&kj&SA",
      "$ifpdfG*K*NG*D*N*B*M*R*L*SH*S*-A$flr%mx$zbij$SUBJOINER$ijul%rn%ihrn%PLUTA",
      "$qiijaoqgSUNglzFLAME;FLAME,SUN$TERMINAL MARK-1%MARK-2!!!!!!!!!!!!!",
      "!CANADIAN SYLLABICS NATTILIK HI&HII&HO&HOO&HA&HAA&SHRI&SHRII&SHRO&SHROO&SHRA&SHRAA%SPE%SPI",
      "%SPO%SPA!PAU CIN HAUbPA*KA*LA*MA*DA*ZA*VA*kh*HA*GA*kw*SA*BA*CA*TA*k3*NA*lf*RA*FA*kp*A*E*I*O",
      "*U*UA*IA*ifP+K+T+M+N+L+W+NG+Y&s3j5j9*j5&SANDHIn7ki&s3j5j9if+if&SANDHIn7kiif*j5j9*j5+j9if+if",
      "&MID-LEVELj5&n7kipl&MID-LEVELj5j9if+if&LOW-FALLINGj5j9*j5&n7ki&LOW-FALLINGj5j9if+if&n7kiif"]⟩,
    ⟨0x11C00, [
      "!BHAIKSUKIbA%AA%I%II%U%UU%k7R&RR&L!!BHAIKSUKIbE%AI%O%AU%KA%kw%GA%lx%kh%CA%kp%JA%mz%kr%ls%mc",
      "%lt%mk%l4%TA%k3%DA%lv%NA%PA%lf%BA%l7%MA%YA%RA%LA%VA%kj%ml%SA%HA$jkfAA&I&II&U&UU&k7R*RR*L!",
      "!BHAIKSUKIjkfE&AI&O&AU$fng%lr%mx%me%rb$nq$ihnq$r7o2$GAP FILLER-1%FILLER-2!!!!!!!!!!",
      "!BHAIKSUKIjpj1%ig%id%ik%io%is%iy%i5%iz%i9$kxig%id%ik%io%is%iy%i5%iz%i9%ka%mf%po%qs%nb%q5%m4",
      "%r1%mr$HUNDREDS UNITij!!!!MARCHENqiij$ijrn$bKA%kw%GA%kh%CA%kp%JA%kr%TA%k3%DA%NA%PA%lf%BA%MA",
      "%nv%r8%DZA%WA%pv%ZA%-A%YA%RA%LA%kj%SA%HA%A!!!MARCHENydbKA&kw&GA&kh&CA&kp&JA&kr&TA&k3&DA&NA",
      "&PA&lf&BA&MA&nv&r8&DZA&WA&pv&ZA!!MARCHENydbYA&RA&LA&kj&SA&HA&A$jkfAA&I&U&E&O$flr%ng"]⟩,
    ⟨0x11D00, [
      "!MASARAM GONDIbA&AA&I&II&U&UU&E!!MASARAM GONDIbAI&O!!MASARAM GONDIbAU&KA&kw&GA&lx&kh&CA&kp",
      "&JA&mz&kr&ls&mc&lt&mk&l4&TA&k3&DA&lv&NA&PA&lf&BA&l7&MA&YA&RA&LA&VA&kj&ml&SA&HA&og&KSSA&JNYA",
      "&TRA%jkfAA*I*II*U*UU*k7R!!!!MASARAM GONDIjkfE!!MASARAM GONDIjkfAI*O!!MASARAM GONDIjkfAU%flr",
      "&mx&oy&rz&HALANTA%me%REPHA%RA-KARA!!!!!!!!!MASARAM GONDIjpj1&ig&id&ik&io&is&iy&i5&iz&i9!!!!!",
      "!!GUNJALA GONDIbA&AA&I&II&U&UU!!GUNJALA GONDIbEE&AI!!GUNJALA GONDIbOO&AU&YA&VA&BA&l7&MA&KA",
      "&kw&TA&k3&LA&GA&lx&DA&lv&NA&CA&kp&ls&mc&og&JA&mz&lt&mk&kh&PA&lf&HA&RA&SA%jkfAA*I*II*U*UU!",
      "!GUNJALA GONDIjkfEE*AI!!GUNJALA GONDIjkfOO*AU%flr&mx%me%OM!!!!!!!!GUNJALA GONDIjpj1&ig&id&ik",
      "&io&is&iy&i5&iz&i9"]⟩,
    ⟨0x11EE0, [
      "!MAKASARbKA%GA%kh%PA%BA%MA%TA%DA%NA%CA%JA%kr%YA%RA%LA%VA%SA%A$ANGKA$jkfI&U&E&O$PASSIMBANG",
      "$ntOFo6"]⟩,
    ⟨0x11FB0, [
      "!LISUbYHA!!!!!!!!!!!!!!!!TAMILp9igTHREE-HUNDRED-AND-TWENTIETH&ONE-HUNDRED-AND-SIXTIETH",
      "&EIGHTIETH&SIXTY-FOURTH&FORTIETH&THIRTY-SECOND%ikEIGHTIETHS&SIXTY-FOURTHS%igTWENTIETH",
      "&SIXTEENTH-1&SIXTEENTH-2&TENTH&od%ikTWENTIETHS&SIXTEENTHS%igFIFTH&m9&HALF-1&HALF-2%ikrt",
      "%DOWNSCALING FACTOR KIIZH$fNEL%CEVITU%AAZHAAKKU%UZHAKKU%MUUVUZHAKKU%KURUNI%PATHAKKU",
      "%MUKKURUNI%KAACU%PANAM%PON%VARAAKAN%PAARAM%KUZHI%VELI$WET CULTIVATIONf$DRY CULTIVATIONf",
      "$LANDf$SALT PANf$TRADITIONAL CREDITf%kxf$CURRENTf$gODDf$SPENTf$TOTALf$IN POSSESSIONf",
      "$STARTINGnlf$fMUTHALIYA%VAKAIYARAA!!!!!!!!!!!!!!TAMILl8ntOF TEXT!CUNEIFORMfA&i0A*BAD*qxmh*HA",
      "*ot*LAGARln*MUSH*SAG%A2%AB&i0ASH2*DUN3ln*GAL*qxmh*HA*otln*IMIN*tz*SHESH*Ui3Ui3U&ln%AB2",
      "&i0BALAG*qxmh*MEi3EN*SHA3*ro%AD%AK&i0ERIN2*SHITAi3rp%AL&i0AL*DIM2*rp*HA*KAD3*KI*m7*USH%ALAN",
      "%q8%AMAR&i0m7%AN&jgAN&iki0&i3NAGAwyANi3NAGA+m1%ANSHE%APIN%ARAD&i0KUR%ARKAB%ASAL2%l3&ZIDAmh",
      "&KABAmh&jgl3TUG2jgTUG2 TUG2jgTUG2 PAP+jgl3:nhl3jgl3jgl3%ASH2%ASHGAB%BA%BAD%BAG3%BAHAR2%BAL",
      "&jgBAL%BALAG%i2%BARA2%BI&i0A*oh*otln%BU&jgBU AB+UN&nhBU%BULUG&jgBULUG%BUR%BUR2%DA%DAG",
      "&KISIM5i0Ai3MASH+AMAR+BALAG+BI+GA,i3MASH+GI+GIR2+GUD+HA+IR,i3LU+KAK+LA+LU,i3MASH2+LUM+NE",
      "+PAPi3PAP+SI+ro+U2i3GIR2+USH%DAM%DAR%DARA3%DARA4%DI%DIB%DIM&i0m7%DIM2%DIN&tsUlnph%ph%DU&jgDU",
      "&ln&xa%DUB&i0ESH2%DUB2%DUG%DUGUD%DUH%DUN%DUN3&ln*ln%DUN4%DUR2%E&i0PAP&jgElwjglw%E2",
      "&i0Ai3HAi3DA*oh*MI*SAL*m7*U%EDIN%EGIR%EL%EN&i0qx+mh*ME&nhEN&wyEN&m1%EREN%ERIN2%ESH2%EZEN&i0A",
      "+i3LAL:i0LAL*AN*BAD*DUN3ln,ln*HA+ln*otln*ts+m1*KU3*LA*LALi0LAL*LI*LU*U2*UD%GA&ln%GA2",
      "&i0Ai3DAi3HA,HA,ot*AB2mhi3TAB*AN*l3*ASH2i3GAL*BAD*i2i3RA*BUR+i3RA*DA*DI*DIMi0m7*DUB*EL+i3LA",
      "*EN+i0qxmh*qxmh*oh*GI*GI4+i3A*GIR2i3SU*HAi3LUi3ESH2*HAL+i3LA*HIi3LI*HUB2*otln*ISHi3HUi3l3",
      "*KAK*ts*KID+i3LAL*KU3i3AN*LA*MEi3EN*MI*lw+jglw*PA*SAL*SAR*m7+i3TUR*SHID*SUM*ro*U*UD+i3DU",
      "&jgGA2%GABA&nhGABA%GAD&jgGADohjgoh%GAL&GADjgGADohjgoh%GALAM%GAM%GAN%qx&mh&jgqx&nhqx%oh%GAR3",
      "%GASHAN%GESHTIN&i0KUR%GI&i0E*U&nhGI%GI4&jgGI4&nhGI4%GIDIM%GIR2&ln%GIR3&i0Ai3ot*qxmh*ot",
      "*LUi3ot*PA%GISAL%rp&nhrp&i0BAD*ro&mh%GU&nhGU%GU2&i0KAK+i0otln*lw*SALi3TUG2&ln%GUD&i0Ai3KUR",
      "*KUR&jgGUD LUGAL%GUL%GUM&i0m7%GUR%GUR7%GURUN%GURUSH%HA&mh&ln%HAL%HI&i0l3*ASH2*BAD*ph*GAD*KIN",
      "*lw*m7*U%HU%HUB2&i0AN*HAL*ts*LISH*UD%HUL2%I&A%IB%IDIM&jgIDIM BUR+m1%IG%ot&DIB&RI",
      "&jgotSHIRjgSHIR UDjgUD&ln%IL&i0qxmh%IL2%IM&i0ro&nhIM&wyIM&m1%IMIN%IN%IR%ISH%KA&i0A*AD+i3KU3",
      "*ASH2*BAD*BALAG*i2*BI*ERIN2*ESH2*GA*GAL*qxmh*oh+i3SHA3i3A*GI*GIR2*rpi3SAR+nhrp*GU*GUR7*ot*IM",
      "*KAK*KI*KID*LI*LU*ME+i3DU,GI,TE*MI+i3NUNUZ*NE*lw*PI*RU*SA*SAR*kj*m7*SHID*SHU*SIG*SUHUR*TAR*U",
      "*U2*UD*UMUMi0PA*USH*ZI%KA2&nhKA2%KAB%KAD2%KAD3%KAD4%KAD5&jgKAD5%KAK&i0otln%KAL&i0BAD&nhKAL",
      "%KAM2%KAM4%ts&tzi0Ujgtzi0U&jgtstzi0Ujgtzi0U%KESH2%KI&i0BAD*U*UD%KID%KIN%KISAL%KISH%KISIM5",
      "&jgKISIM5%KU&jgHIi0ASH2 KUjgHIi0ASH2%KU3%KU4&pld%KU7%KUL&ln%KUN%KUR&wyKUR%KUSHU2%KWU318%LA",
      "%tz&i0A+i3DAi3HA,oh,LAL*AL*AN*l3ZIDAmh*BAD*BI*DAR*EN*GA*oh*GUD+i3GUD*HA*HAL*HIi0lw*otln*IM",
      "+i3HA,LU*KI*KIN*KU3*KUL+i3HIi3A*tz*LISH*LU*LUL*ME+i3EN*MUSH*NE*m7i3SUM*SHITAi3rpi3ERIN2:mh",
      "*SHU2+i3SHU2*SUM*TAG*ro*TEi3Ai3SUi3NA*U+i3A,Ui3U*U2i3l3*UD*USH&m1%LAGAR&i0m7+i3SUM&ln",
      "*jgLAGARlnm7%LAHSHU%LAL&i0LAL%mw&i0KUR+i3RU%LI%LIL%LIMMU2%LISH%LU&i0BAD%LU2&i0AL*BAD*ESH2+mh",
      "*qxmh*HIi0BAD*IM*KAD2*KAD3+i3l3*KI*LAi3l3*tz*MEi3EN*NE*NU*SIi3l3*SIK2i3BU*TUG2&mh&nhLU2",
      "&wyLU2&m1&xa%LU3%LUGAL&jgLUGAL&wyLUGAL&xa%LUH%LUL%LUM&jgLUM+ohjgoh%MA&i0ro&ln%MA2%MAH%MAR",
      "%MASH%MASH2%ME%MES%MI%MIN%MU&jgMU%MUG&ln%MUNSUB%MURGU2%MUSH&i0A*KUR*ZA&jgMUSH+i0Ai3NA&nhMUSH",
      "%MUSH3&i0A+i3DI*DI&ln%NA%NA2%NAGA&ks&i0SHUmh&wyNAGA%NAGAR%NAM NUTILLU%NAM%NAM2%NE&i0A*UD&xa",
      "%NI&i0E%NI2%NIM&i0qxmh*ohi3qxmh%NINDA2&i0AN*l3+i3l3*GUD*MEi3qxmh*NE*lw*m7+i3A AN,l3:i3l3",
      "*U2i3l3*USH%NISAG%NU%NU11%lw&LAGARi0oh+MASH+SAL,jglwLAGARi0SAL+USH&mh&jglw&nhlw+LAGARjgLAGAR",
      "%NUNUZ&AB2i0ASHGAB+BI+DUG+GUD+otln+KAD3+LA+NE+SILA3+U2&KISIM5i0BI,U%PA%PAD%PAN%PAP%PESH2%PI",
      "&i0A*AB*BI*BU*E*I*IB*U*U2&nhPI%PIRIG&i0KAL*UD*ZA&wyPIRIG%RA%RAB%RI%RU%SA%SAG NUTILLU%SAG&i0A",
      "*DU*DUB*HA*KAK*KUR*LUM*MI*lw*SAL*SHID*TAB*U2*UB*UM*UR*USH&jgSAG&ln%SAL&tzi0ASH2%SANGA2%SAR",
      "%kj%SHA3&i0A*BAD*rp*NE*SHU2*TUR*U+i3A%SHA6%SHAB6%vc%m7&HU&jgm7GADjgGADohjgoh+TABjgTABohjgoh",
      "%SHEG9%SHEN%SHESH%SHESH2%SHESHLAM%SHID&i0A*IM%SHIM&i0A*BAL*BULUG*DIN*oh*ot+ln*KUSHU2*LUL*MUG",
      "*SAL%SHINIG%SHIR&mh&jgSHIR BURjgBUR%SHITA%SHU&jgksSHU%SHU2%SHUBUR%SI&ln%SIG%SIG4&jgSIG4 SHU2",
      "%SIK2%SILA3%SU&jgSU%SUD%SUD2%SUHUR%SUM%SUMASH%SUR%SUR9%TA&ly&i0HI*MI&ln%TAB",
      "&jgTAB NIjgNIphjgph&m1%TAG&i0BI*GUD*m7*SHU*TUG2*UD%ro%TAR%TE&ln%TI&mh%TIL%TIR&i0ro&jgTIR",
      "+GADjgGADohjgoh%TU%TUG2%TUK%TUM%TUR&jgTUR ZAjgZA%U&GUD&U U&jgU PAjgPAohjgoh+SURjgSUR",
      "+UkdjgUkd%U2%UB%UD&KUSHU2&i0BAD*MI*Ui3Ui3U<ln&ln&xa*i0BAD%UDUG%UM&i0tz*MEi3DA*SHA3*U%UMBIN",
      "%UMUM&i0ts*PA%UN&ln%UR&nhUR&xa%UR2&i0Ai3HA,NA*AL*HA*lw*U2+i3l3,BI%UR4%URI%URI3%URU&i0A",
      "*ASHGAB*i2*DUN*GA*GAL*qxmh*oh*GU*HA*ot*IM*ISH*KI*LUM*MIN*PA*m7*SIG4*TU*Ui3GUD*UD*URUDA%URUDA",
      "&i0U%USH&i0A*KU*KUR*ro%USHX%USH2%USHUMX%UTUKI%UZ3&i0ts%UZU%ZA&mh&m1i0KUR%ZAG%ZAMX%ZE2%ZI",
      "&jgZI%ZI3%ZIB&KABAmh%ZIG%ZIZ2%ZU%ZU5&i0A%ZUBUR%ZUM%KAP ELAMITE%ABi0lw%AB2i0A%AMARi0KUG",
      "%DAG KISIM5i0U2i3MASH%DAG3%phi3SHU%DUBi0m7%EZENi0GUD*m7%GA2i0ANi3KAKi3A*ASH2%GE22%GIG%HUSH",
      "%KAi0ANSHE*ASH3*rp*GUD*HIi0ASH2*LUM*PA*SHUL*TU*UR2%tzi0GI%LU2xai0BAD&i0ESH2i3LAL*SHU%MESH",
      "%MUSH3i0ZA%NA4%NIN%NIN9%NINDA2i0BAL*GI%NU11kymrll%PESH2ly%PIR2%SAGi0otln%TI2%UMi0ME%U U"]⟩,
    ⟨0x12400, [
      "!CUNEIFORM NUMERICfidl3&ikl3&iol3&isl3&iyl3&i5l3&izl3&i9l3&ikph&ioph&isph&iyph&i5ph&izph",
      "&i9ph&ioU&isU&iyU&i5U&izU&i9U&igv7&idv7&ikv7&iov7&isv7&iyv7&i5v7&izv7&i9v7&igGESHU&idGESHU",
      "&ikGESHU&ioGESHU&isGESHU&idvc&ikvc+pld&iovc&isvc&iyvc&i5vc&izvc&i9vc&igSHARU&idSHARU&ikSHARU",
      "+pld&ioSHARU&isSHARU&vci0GALi3ph:MIN&igBURU&idBURU&ikBURU+pld&ioBURU&isBURU&ikpldESH16,ESH21",
      "&iopldLIMMU,LIMMU4,LIMMU A:B&iypldASH9&i5pldIMIN3,IMIN A:B&izpldUSSU,USSU3&i9pldILIMMU",
      ",ILIMMU3,ILIMMU4,ILIMMU A&idl3mh&ikl3mh&iol3mh&isl3mh&iyl3mh&igBAN2&idBAN2&ikBAN2&ioBAN2+pld",
      "&isBAN2+pld&NIGIDAMIN&NIGIDAESH&igESHE3&idESHE3&igs8ph&idvvph&isSIXTHSph&igs8pldA&idvvpldA",
      "&igodl3*m9l3&ljASSYRIANigSIXTH,m9&igm9GUR*i6GUR&ELAMITEigs8*idvv*qs*nb&ioUpld&isUpld&iyUpld",
      "&i5Upld&izUpld&i9Upld!!CUNEIFORMl8fljASSYRIANr7yw&ixnj&l1nj*TRICOLON*QUADCOLON!!!!!!!!!!!",
      "!CUNEIFORMfABi0lwmh*SHU2%ADi0ESH2%BADi0phmh%BAHAR2i0AB2*NI*ZA%BUjgBUi0NA2%DAi0ro%DAGi0KUR",
      "%DIMi0ot*U U U%DIM2i0UD%DUGi0ANSHE*l3+ATic*DIN*DUN*ERIN2*GA*GI*GIR2ln*rp*HA*HI*otln*ts*KUR",
      "*KUSHU2+i3ts*LAK-020*mw+i0KUR*LUHi3rp*MASH*MES*MI*NI*PI*m7*SIln%E2i0KUR*PAP%ERIN2 X",
      "%ESH2nhESH2%EZENxai0l3+HI+otln+LA+LAL+ME+MES+SU&i0SU%GA2i0BAHAR2*DIMln*DUGi0otln,ts*EREN*GA",
      "*ohi3DI,NE*HAi3A*KUSHU2i3ts*mw+i0KUR*LUH*MUSH*NE+i3E2,GI*SHIM*ZIZ2%GABAkymrll%GESHTINi0U",
      "%rpi0rpnhrp%GU2i0otln%GUDi3rpi0ro%HAmhln%HIi0l3jgHIi0l3%KAi0BU*KA*U U U*UR%tzi0ZUjgZU",
      "%LAK-003%LAK-021%LAK-025%LAK-030%LAK-050%LAK-051%LAK-062%LAK-079jgLAK-079ln%LAK-080",
      "%LAK-081jgLAK-081%LAK-092%LAK-130%LAK-142%LAK-210%LAK-219%LAK-220%LAK-225%LAK-228%LAK-238",
      "%LAK-265%LAK-266%LAK-343%LAK-347%LAK-348%LAK-383%LAK-384%LAK-390%LAK-441%LAK-449&i0GU*ot",
      "*PAPi3LU3,PAPi3LU3*U2i3BA%LAK-450%LAK-457%LAK-470%LAK-483%LAK-490%LAK-492%LAK-493%LAK-495",
      "%LAK-550%LAK-608%LAK-617&i0l3*BAD*DUN3lnln*KU3*LA*TAR*TE*U2*UD*URUDA%LAK-636%LAK-648&i0DUB",
      "*GA*ot+ln*NI*PAPi3PAPi3LU3*SHESHi3KI*UD*URUDA%LAK-724%LAK-749%LU2lni0l3&i0ph*HAL*PAP",
      "+i3PAPi3LU3*ro%MIi3ZA7%MUSHjgMUSHi0GA,KAK%NINDA2i0DIMln*rp*GUL*HI*KESH2*LAK-050*MASH",
      "*PAPi3PAP*U+i3U*URUDA%SAGlni0HA&i0EN*m7ATic*ro%SHA6mh%m7jgm7&i3HUB2*NAM2*SAR%SHU2i3DUGi0NI",
      "*E2i0AN%SIi0ro%roi3SAG%TUMi0qxmh*ikph%UR2ks&i0UD%URUi0DARA3*LAK-668*LU3%ZA7%ZUjgZUi3SAR",
      "%ZU5i0ikphmh"]⟩,
    ⟨0x12F90, [
      "!CYPRO-MINOANfCM001%CM002%CM004%CM005%CM006%CM007%CM008%CM009%CM010%CM011%CM012%CM012B%CM013",
      "%CM015%CM017%CM019%CM021%CM023%CM024%CM025%CM026%CM027%CM028%CM029%CM030%CM033%CM034%CM035",
      "%CM036%CM037%CM038%CM039%CM040%CM041%CM044%CM046%CM047%CM049%CM050%CM051%CM052%CM053%CM054",
      "%CM055%CM056%CM058%CM059%CM060%CM061%CM062%CM063%CM064%CM066%CM067%CM068%CM069%CM070%CM071",
      "%CM072%CM073%CM074%CM075%CM075B%CM076%CM078%CM079%CM080%CM081%CM082%CM083%CM084%CM085%CM086",
      "%CM087%CM088%CM089%CM090%CM091%CM092%CM094%CM095%CM096%CM097%CM098%CM099%CM100%CM101%CM102",
      "%CM103%CM104%CM105%CM107%CM108%CM109%CM110%CM112%CM114%CM301%CM302!!!!!!!!!!!!!",
      "!EGYPTIAN HIEROGLYPH A001%A002%A003%A004%A005%A005A%A006%A006A%A006B%A007%A008%A009%A010",
      "%A011%A012%A013%A014%A014A%A015%A016%A017%A017A%A018%A019%A020%A021%A022%A023%A024%A025%A026",
      "%A027%A028%A029%A030%A031%A032%A032A%A033%A034%A035%A036%A037%A038%A039%A040%A040A%A041%A042",
      "%A042A%A043%A043A%A044%A045%A045A%A046%A047%A048%A049%A050%A051%A052%A053%A054%A055%A056",
      "%A057%A058%A059%A060%A061%A062%A063%A064%A065%A066%A067%A068%A069%A070%B001%B002%B003%B004",
      "%B005%B005A%B006%B007%B008%B009%C001%C002%C002A%C002B%C002C%C003%C004%C005%C006%C007%C008",
      "%C009%C010%C010A%C011%C012%C013%C014%C015%C016%C017%C018%C019%C020%C021%C022%C023%C024%D001",
      "%D002%D003%D004%D005%D006%D007%D008%D008A%D009%D010%D011%D012%D013%D014%D015%D016%D017%D018",
      "%D019%D020%D021%D022%D023%D024%D025%D026%D027%D027A%D028%D029%D030%D031%D031A%D032%D033%D034",
      "%D034A%D035%D036%D037%D038%D039%D040%D041%D042%D043%D044%D045%D046%D046A%D047%D048%D048A",
      "%D049%D050%D050A%D050B%D050C%D050D%D050E%D050F%D050G%D050H%D050I%D051%D052%D052A%D053%D054",
      "%D054A%D055%D056%D057%D058%D059%D060%D061%D062%D063%D064%D065%D066%D067%D067A%D067B%D067C",
      "%D067D%D067E%D067F%D067G%D067H%E001%E002%E003%E004%E005%E006%E007%E008%E008A%E009%E009A%E010",
      "%E011%E012%E013%E014%E015%E016%E016A%E017%E017A%E018%E019%E020%E020A%E021%E022%E023%E024",
      "%E025%E026%E027%E028%E028A%E029%E030%E031%E032%E033%E034%E034A%E036%E037%E038%F001%F001A",
      "%F002%F003%F004%F005%F006%F007%F008%F009%F010%F011%F012%F013%F013A%F014%F015%F016%F017%F018",
      "%F019%F020%F021%F021A%F022%F023%F024%F025%F026%F027%F028%F029%F030%F031%F031A%F032%F033%F034",
      "%F035%F036%F037%F037A%F038%F038A%F039%F040%F041%F042%F043%F044%F045%F045A%F046%F046A%F047",
      "%F047A%F048%F049%F050%F051%F051A%F051B%F051C%F052%F053%G001%G002%G003%G004%G005%G006%G006A",
      "%G007%G007A%G007B%G008%G009%G010%G011%G011A%G012%G013%G014%G015%G016%G017%G018%G019%G020",
      "%G020A%G021%G022%G023%G024%G025%G026%G026A%G027%G028%G029%G030%G031%G032%G033%G034%G035%G036",
      "%G036A%G037%G037A%G038%G039%G040%G041%G042%G043%G043A%G044%G045%G045A%G046%G047%G048%G049",
      "%G050%G051%G052%G053%G054%H001%H002%H003%H004%H005%H006%H006A%H007%H008%I001%I002%I003%I004",
      "%I005%I005A%I006%I007%I008%I009%I009A%I010%I010A%I011%I011A%I012%I013%I014%I015%K001%K002",
      "%K003%K004%K005%K006%K007%K008%L001%L002%L002A%L003%L004%L005%L006%L006A%L007%L008%M001",
      "%M001A%M001B%M002%M003%M003A%M004%M005%M006%M007%M008%M009%M010%M010A%M011%M012%M012A%M012B",
      "%M012C%M012D%M012E%M012F%M012G%M012H%M013%M014%M015%M015A%M016%M016A%M017%M017A%M018%M019",
      "%M020%M021%M022%M022A%M023%M024%M024A%M025%M026%M027%M028%M028A%M029%M030%M031%M031A%M032",
      "%M033%M033A%M033B%M034%M035%M036%M037%M038%M039%M040%M040A%M041%M042%M043%M044%N001%N002",
      "%N003%N004%N005%N006%N007%N008%N009%N010%N011%N012%N013%N014%N015%N016%N017%N018%N018A%N018B",
      "%N019%N020%N021%N022%N023%N024%N025%N025A%N026%N027%N028%N029%N030%N031%N032%N033%N033A%N034",
      "%N034A%N035%N035A%N036%N037%N037A%N038%N039%N040%N041%N042%NL001%NL002%NL003%NL004%NL005",
      "%NL005A%NL006%NL007%NL008%NL009%NL010%NL011%NL012%NL013%NL014%NL015%NL016%NL017%NL017A%NL018",
      "%NL019%NL020%NU001%NU002%NU003%NU004%NU005%NU006%NU007%NU008%NU009%NU010%NU010A%NU011%NU011A",
      "%NU012%NU013%NU014%NU015%NU016%NU017%NU018%NU018A%NU019%NU020%NU021%NU022%NU022A%O001%O001A",
      "%O002%O003%O004%O005%O005A%O006%O006A%O006B%O006C%O006D%O006E%O006F%O007%O008%O009%O010",
      "%O010A%O010B%O010C%O011%O012%O013%O014%O015%O016%O017%O018%O019%O019A%O020%O020A%O021%O022",
      "%O023%O024%O024A%O025%O025A%O026%O027%O028%O029%O029A%O030%O030A%O031%O032%O033%O033A%O034",
      "%O035%O036%O036A%O036B%O036C%O036D%O037%O038%O039%O040%O041%O042%O043%O044%O045%O046%O047",
      "%O048%O049%O050%O050A%O050B%O051%P001%P001A%P002%P003%P003A%P004%P005%P006%P007%P008%P009",
      "%P010%P011%Q001%Q002%Q003%Q004%Q005%Q006%Q007%R001%R002%R002A%R003%R003A%R003B%R004%R005",
      "%R006%R007%R008%R009%R010%R010A%R011%R012%R013%R014%R015%R016%R016A%R017%R018%R019%R020%R021",
      "%R022%R023%R024%R025%R026%R027%R028%R029%S001%S002%S002A%S003%S004%S005%S006%S006A%S007%S008",
      "%S009%S010%S011%S012%S013%S014%S014A%S014B%S015%S016%S017%S017A%S018%S019%S020%S021%S022",
      "%S023%S024%S025%S026%S026A%S026B%S027%S028%S029%S030%S031%S032%S033%S034%S035%S035A%S036",
      "%S037%S038%S039%S040%S041%S042%S043%S044%S045%S046%T001%T002%T003%T003A%T004%T005%T006%T007",
      "%T007A%T008%T008A%T009%T009A%T010%T011%T011A%T012%T013%T014%T015%T016%T016A%T017%T018%T019",
      "%T020%T021%T022%T023%T024%T025%T026%T027%T028%T029%T030%T031%T032%T032A%T033%T033A%T034%T035",
      "%T036%U001%U002%U003%U004%U005%U006%U006A%U006B%U007%U008%U009%U010%U011%U012%U013%U014%U015",
      "%U016%U017%U018%U019%U020%U021%U022%U023%U023A%U024%U025%U026%U027%U028%U029%U029A%U030%U031",
      "%U032%U032A%U033%U034%U035%U036%U037%U038%U039%U040%U041%U042%V001%V001A%V001B%V001C%V001D",
      "%V001E%V001F%V001G%V001H%V001I%V002%V002A%V003%V004%V005%V006%V007%V007A%V007B%V008%V009",
      "%V010%V011%V011A%V011B%V011C%V012%V012A%V012B%V013%V014%V015%V016%V017%V018%V019%V020%V020A",
      "%V020B%V020C%V020D%V020E%V020F%V020G%V020H%V020I%V020J%V020K%V020L%V021%V022%V023%V023A%V024",
      "%V025%V026%V027%V028%V028A%V029%V029A%V030%V030A%V031%V031A%V032%V033%V033A%V034%V035%V036",
      "%V037%V037A%V038%V039%V040%V040A%W001%W002%W003%W003A%W004%W005%W006%W007%W008%W009%W009A",
      "%W010%W010A%W011%W012%W013%W014%W014A%W015%W016%W017%W017A%W018%W018A%W019%W020%W021%W022",
      "%W023%W024%W024A%W025%X001%X002%X003%X004%X004A%X004B%X005%X006%X006A%X007%X008%X008A%Y001",
      "%Y001A%Y002%Y003%Y004%Y005%Y006%Y007%Y008%Z001%Z002%Z002A%Z002B%Z002C%Z002D%Z003%Z003A%Z003B",
      "%Z004%Z004A%Z005%Z005A%Z006%Z007%Z008%Z009%Z010%Z011%Z012%Z013%Z014%Z015%Z015A%Z015B%Z015C",
      "%Z015D%Z015E%Z015F%Z015G%Z015H%Z015I%Z016%Z016A%Z016B%Z016C%Z016D%Z016E%Z016F%Z016G%Z016H",
      "%AA001%AA002%AA003%AA004%AA005%AA006%AA007%AA007A%AA007B%AA008%AA009%AA010%AA011%AA012%AA013",
      "%AA014%AA015%AA016%AA017%AA018%AA019%AA020%AA021%AA022%AA023%AA024%AA025%AA026%AA027%AA028",
      "%AA029%AA030%AA031%AA032!!EGYPTIAN HIEROGLYPHixJOINER%jnJOINER%INSERT ATmdSTART*ndSTART*mdnt",
      "*ndnt%pfiw%BEGIN SEGMENT%ntSEGMENT"]⟩,
    ⟨0x14400, [
      "!ANATOLIAN HIEROGLYPH A001%A002%A003%A004%A005%A006%A007%A008%A009%A010%A010A%A011%A012%A013",
      "%A014%A015%A016%A017%A018%A019%A020%A021%A022%A023%A024%A025%A026%A026A%A027%A028%A029%A030",
      "%A031%A032%A033%A034%A035%A036%A037%A038%A039%A039A%A040%A041%A041A%A042%A043%A044%A045",
      "%A045A%A046%A046A%A046B%A047%A048%A049%A050%A051%A052%A053%A054%A055%A056%A057%A058%A059",
      "%A060%A061%A062%A063%A064%A065%A066%A066A%A066B%A066C%A067%A068%A069%A070%A071%A072%A073",
      "%A074%A075%A076%A077%A078%A079%A080%A081%A082%A083%A084%A085%A086%A087%A088%A089%A090%A091",
      "%A092%A093%A094%A095%A096%A097%A097A%A098%A098A%A099%A100%A100A%A101%A101A%A102%A102A%A103",
      "%A104%A104A%A104B%A104C%A105%A105A%A105B%A106%A107%A107A%A107B%A107C%A108%A109%A110%A110A",
      "%A110B%A111%A112%A113%A114%A115%A115A%A116%A117%A118%A119%A120%A121%A122%A123%A124%A125",
      "%A125A%A126%A127%A128%A129%A130%A131%A132%A133%A134%A135%A135A%A136%A137%A138%A139%A140%A141",
      "%A142%A143%A144%A145%A146%A147%A148%A149%A150%A151%A152%A153%A154%A155%A156%A157%A158%A159",
      "%A160%A161%A162%A163%A164%A165%A166%A167%A168%A169%A170%A171%A172%A173%A174%A175%A176%A177",
      "%A178%A179%A180%A181%A182%A183%A184%A185%A186%A187%A188%A189%A190%A191%A192%A193%A194%A195",
      "%A196%A197%A198%A199%A200%A201%A202%A202A%A202B%A203%A204%A205%A206%A207%A207A%A208%A209",
      "%A209A%A210%A211%A212%A213%A214%A215%A215A%A216%A216A%A217%A218%A219%A220%A221%A222%A223",
      "%A224%A225%A226%A227%A227A%A228%A229%A230%A231%A232%A233%A234%A235%A236%A237%A238%A239%A240",
      "%A241%A242%A243%A244%A245%A246%A247%A248%A249%A250%A251%A252%A253%A254%A255%A256%A257%A258",
      "%A259%A260%A261%A262%A263%A264%A265%A266%A267%A267A%A268%A269%A270%A271%A272%A273%A274%A275",
      "%A276%A277%A278%A279%A280%A281%A282%A283%A284%A285%A286%A287%A288%A289%A289A%A290%A291%A292",
      "%A293%A294%A294A%A295%A296%A297%A298%A299%A299A%A300%A301%A302%A303%A304%A305%A306%A307%A308",
      "%A309%A309A%A310%A311%A312%A313%A314%A315%A316%A317%A318%A319%A320%A321%A322%A323%A324%A325",
      "%A326%A327%A328%A329%A329A%A330%A331%A332A%A332B%A332C%A333%A334%A335%A336%A336A%A336B%A336C",
      "%A337%A338%A339%A340%A341%A342%A343%A344%A345%A346%A347%A348%A349%A350%A351%A352%A353%A354",
      "%A355%A356%A357%A358%A359%A359A%A360%A361%A362%A363%A364%A364A%A365%A366%A367%A368%A368A",
      "%A369%A370%A371%A371A%A372%A373%A374%A375%A376%A377%A378%A379%A380%A381%A381A%A382",
      "%A383 RA OR RI%A383A%A384%A385%A386%A386A%A387%A388%A389%A390%A391%A392%A393iz%A394%A395",
      "%A396%A397%A398%A399%A400%A401%A402%A403%A404%A405%A406%A407%A408%A409%A410 BEGIN LOGOGRAMij",
      "%A410AntLOGOGRAMij%A411%A412%A413%A414%A415%A416%A417%A418%A419%A420%A421%A422%A423%A424",
      "%A425%A426%A427%A428%A429%A430%A431%A432%A433%A434%A435%A436%A437%A438%A439%A440%A441%A442",
      "%A443%A444%A445%A446%A447%A448%A449%A450%A450A%A451%A452%A453%A454%A455%A456%A457%A457A%A458",
      "%A459%A460%A461%A462%A463%A464%A465%A466%A467%A468%A469%A470%A471%A472%A473%A474%A475%A476",
      "%A477%A478%A479%A480%A481%A482%A483%A484%A485%A486%A487%A488%A489%A490%A491%A492%A493%A494",
      "%A495%A496%A497%A501%A502%A503%A504%A505%A506%A507%A508%A509%A510%A511%A512%A513%A514%A515",
      "%A516%A517%A518%A519%A520%A521%A522%A523%A524%A525%A526%A527%A528%A529%A530"]⟩,
    ⟨0x16800, [
      "!BAMUMbPHASE-A NGKUE MFON&GBIEE FON&PON MFON PIPAEMGBIEE+PIPAEMBA&NAA MFON&SHUENSHUET",
      "&TITA MFON&NZA MFON&SHINDA PA NJI&PON PA NJI PIPAEMGBIEE,PIPAEMBA&MAEMBGBIEE&TU MAEMBA",
      "&NGANGU&MAEMVEUX&MANSUAE&MVEUAENGAM&SEUNYAM&NTOQPEN&KEUKEUTNDA&NKINDI&SUU&NGKUENZEUM&LAPAQ",
      "&LET KUT&NTAP MFAA&MAEKEUP&PASHAE&GHEUAERAE&PAMSHAE&MON NGGEUAET&NZUN MEUT&U YUQ NAE",
      "&GHEUAEGHEUAE&NTAP NTAA&SISA&MGBASA&MEUNJOMNDEUQ&MOOMPUQ&KAFA&PA LEERAEWA&NDA LEERAEWA&PET",
      "&MAEMKPEN&NIKA&PUP&TUAEP&LUAEP&SONJAM&TEUTEUWEN&MAENYI&KET&NDAANGGEUAET&KUOQ&MOOMEUT&SHUM",
      "&LOMMAE&FIRI&ROM&KPOQ&SOQ&MAP PIEET&SHIRAE&NTAP&SHOQ NSHUT YUM&NYIT MONGKEUAEQ&PAARAE",
      "&NKAARAE&UNKNOWN&NGGEN&MAESI&NJAM&MBANYI&NYET&TEUAEN&SOT&PAAM&NSHIEE&MAEM&NYI&KAQ&NSHA&VEE",
      "&LU&NEN&NAQ&MBAQ%PHASE-B NSHUET&TU MAEMGBIEE&SIEE&SET TU&LOM NTEUM&MBA MAELEE&KIEEM&YEURAE",
      "&MBAARAE&KAM&PEESHI&YAFU LEERAEWA&mwNSHUT NYAM&NTIEE SHEUOQ&NDU NJAA&GHEUGHEUAEM&PIT",
      "&TU NSIEE&SHET NJAQ&SHEUAEQTU&MFON TEUAEQ&MBIT MBAAKET&NYI NTEUM&KEUPUQ&GHEUGHEN&KEUYEUX",
      "&LAANAE&PARUM&VEUM&NGKINDI MVOP&NGGEU MBU&WUAET&SAKEUAE&TAAM&MEUQ&NGGUOQ*km&MFIYAQ&SUE",
      "&MBEURI&MONTIEEN&NYAEMAE&PUNGAAM&MEUT NGGEET&FEUX&MBUOQ&FEE&KEUAEM&MA NJEUAENA*NJUQA&LET",
      "&NGGAAM&NSEN&MA&KIQ&NGOM%PHASE-C NGKUE MAEMBA&NZA&YUM&WANGKUOQ&NGGEN&NDEUAEREE&NGKAQ&GHARAE",
      "&MBEEKEET&GBAYI&NYIR MKPARAQ MEUN&NTU MBIT&MBEUM&PIRIEEN&NDOMBU&MBAA CABBAGE-TREE&KEUSHEUAEP",
      "&GHAP&KEUKAQ&YU MUOMAE&NZEUM&MBUE&NSEUAEN&MBIT&YEUQ&KPARAQ&KAA&SEUX&NDIDA&TAASHAE&NJUEQ",
      "&TITA YUE&SUAET&NGGUAEN NYAM&VEUX&NANSANAQ&MA KEUAERI&NTAA&NGGUON&LAP&MBIRIEEN&MGBASAQ",
      "&NTEUNGBA&TEUTEUX&NGGUM&FUE&NDEUT&NSA&NSHAQ&BUNG&VEUAEPEN&MBERAE&RU&NJAEM&mw&TITUAEP",
      "&NSUOT NGOM&NJEEEE&KET&NGGU&MAESI&MBUAEM&LU&KUT&NJAM&NGOM&WUP&NGGUEET&NSOM&NTEN&KUOP NKAARAE",
      "&NSUN&NDAM&MA NSIEE&YAA&NDAP&SHUEQ&SETFON&MBI&MAEMBA&MBANYI&KEUSEUX&MBEUX&KEUM&MBAA PICKET",
      "&YUWOQ&NJEUX&MIEE&MUAE&SHIQ&KEN LAW*FATIGUE&NGAQ&NAQ&LIQ&PIN&PEN&TET%PHASE-D MBUO&WAP&NJI",
      "&MFON&NJIEE&LIEE&NJEUT&NSHEE&NGGAAMAE&NYAM&WUAEN&NGKUN&SHEE&NGKAP&KEUAETMEUN&TEUT&SHEUAE",
      "&NJAP&SUE&KET&YAEMMAE&KUOM&SAP&MFEUT&NDEUX&MALEERI&MEUT&SEUAEQ&YEN&NJEUAEM&KEUOT MBUAE",
      "&NGKEURI&TU&GHAA&NGKYEE&FEUFEUAET&NDEE&MGBOFUM&LEUAEP&NDON&MONI&MGBEUN&PUUT&MGBIEE&MFO&LUM",
      "&NSIEEP&MBAA&KWAET&NYET&TEUAEN&SOT&YUWOQ&KEUM&RAEM&TEEEE&NGKEUAEQ&MFEUAE&NSIEET&KEUP&PIP",
      "&PEUTAE&NYUE&LET&NGGAAM&MFIEE&NGGWAEN&YUOM&PAP&YUOP&NDAM&NTEUM&SUAE&KUN&NGGEUX&NGKIEE&TUOT",
      "&MEUN&KUQ&NSUM&TEUN&MAENJET&NGGAP&LEUM&NGGUOM&NSHUT&NJUEQ&GHEUAE&KU&RENlj&TAE&TOQ&NYI&RII",
      "&LEEEE&MEEEE&M&SUU&MU&SHII&SHEUX&KYEE&NU&SHU&NTEE&PEE&NI&SHOQ&PUQ&MVOP&LOQ&REN MUCH&TI&NTUU",
      "&MBAAi5&SAQ&FAA%PHASE-E NDAP&TOON&MBEUM&LAP&VOM&LOON&PAA&SOM&RAQ&NSHUOP&NDUN&PUAE&TAM&NGKA",
      "&KPEUX&WUO&SEE&NGGEUAET&PAAM&TOO&KUOP&LOM&NSHIEE&NGOP&MAEM&NGKEUX&NGOQ&NSHUE&RIMGBA&NJEUX",
      "&PEEM&SAA&NGGURAE&MGBA&GHEUX&NGKEUAEM&NJAEMLI&MAP&LOOT&NGGEEEE&NDIQ&TAEN NTEUM&SET&PUM",
      "&NDAA SOFTNESS&NGGUAESHAE NYAM&YIEE&GHEUN&TUAE&YEUAE&PO&TUMAE&KEUAE&SUAEN&TEUAEQ&VEUAE&WEUX",
      "&LAAM&PU&TAAQ&GHAAMAE&NGEUREUT&SHEUAEQ&MGBEN&MBEE&NZAQ&NKOM&GBET&TUM&KUET&YAP&NYI CLEAVER",
      "&YIT&MFEUQ&NDIAQ&PIEEQ&YUEQ&LEUAEM&FUE&GBEUX&NGKUP&KET&MAE&NGKAAMI&GHET&FA&NTUM&PEUT&YEUM",
      "&NGGEUAE&NYIq0&NZUQ&POON&MIEE&FUET&NAE&MUAE&GHEUAE&FU I&MVI&PUAQ&NGKUM&KUT&PIET&NTAP&YEUAET",
      "&NGGUP&PA PEOPLE&FU CALL&FOM&NJEE&A&TOQ&O&I&LAQ&PA PLURAL&TAA&TAQ&NDAA MY HOUSE&SHIQ&YEUX",
      "&NGUAE&YUAEN&YOQ SWIMMING*COVER&YUQ&YUN&KEUX&PEUX&NJEE EPOCH&PUE&WUE&FEE&VEE&LU&MI&REUX&RAE",
      "&NGUAET&kh&SHO&SHOQ&FU REMEDY&NA&PI&LOQ&KO&MEN&MA&MAQ&TEU&KI&MON&ka&FAQ&GHOM%PHASE-F KA&U&KU",
      "&EE&REE&TAE&NYI&LA&RII&RIEE&MEEEE&TAA&NDAA&NJAEM&M&SUU&SHII&SI&SEUX&KYEE&KET&NUAE&NU&NJUAE",
      "&YOQ&SHU&YA&NSHA&PEUX&NTEE&WUE&PEE&RU&NI&REUX&KEN&NGKWAEN&NGGA&SHO&PUAE&FOM&WA&LI&LOQ&KO",
      "&MBEN&REN&MA&MO&MBAA&TET&KPA&SAMBA&VUEQ!!!!!!!!MRObTA%NGI%YO%MIM%BA%DA%A%oz%KHAI%HAO%DAI%CHU",
      "%KEAAE%OL%MAEM%NIN%PA%OO%O%RO%SHI%THEA%EA%WA%E%KO%LAN%LA%HAI%RI%TEK!!MROjpj1%ig%id%ik%io%is",
      "%iy%i5%iz%i9!!!!!MROnq$ihnq!TANGSAbOZ%OC%OQ%OX%AZ%AC%AQ%AX%VZ%VC%VQ%VX%EZ%EC%EQ%EX%IZ%IC%IQ",
      "%IX%UZ%UC%UQ%UX%AWZ%AWC%AWQ%AWX%UIZ%UIC%UIQ%UIX%ifNG%j9UEX%lpUEZ&AWX%UEC%UEZ%UEQ%UEX%UIUZ",
      "%UIUC%UIUQ%UIUX%MZ%MC%MQ%MX%KA%kw%GA%kh%SA%YA%WA%PA%kr%lf%BA%MA%NA%HA%LA%HTA%TA%DA%RA%NHA%kj",
      "%CA%nv%lx%HTTA%k3%XA%FA%lv%kp%ZA!!TANGSAjpj1%ig%id%ik%io%is%iy%i5%iz%i9!!!!!!!BASSA VAHbENNI",
      "&KA&SE&FA&MBE&YIE&GAH&DHII&KPAH&JO&HWAH&WA&ZO&GBU&DO&CE&UWU&TO&BA&VU&YEIN&PA&WADDA&A&O&OO&U",
      "&EE&E&I!!!BASSA VAHmmkgj5&jvj5&MIDj5&LOW-MIDj5&HIGH-LOWj5%lqki!!!!!!!!!!!PAHAWH HMONGjkKEEB",
      "&KEEV&KIB&KIV&KAUB&KAUV&KUB&KUV&KEB&KEV&KAIB&KAIV&KOOB&KOOV&KAWB&KAWV&KUAB&KUAV&KOB&KOV&KIAB",
      "&KIAV&KAB&KAV&KWB&KWV&KAAB&KAAV%pdVAU&NTSAU&LAU&HAU&NLAU&RAU&NKAU&QHAU&YAU&HLAU&MAU&CHAU",
      "&NCHAU&HNAU&PLHAU&NTHAU&NAU&AU&XAU&CAU%ijCIM TUB*SO*KES*KHAV*SUAM*HOM*TAUM%fVOS THOM",
      "*TSHAB CEEB&CIM CHEEM&VOS THIAB*FEEM&XYEEM NTXIV*of*TOV*FAIB&VOS SEEV&MEEJ SUAB&VOS NRUA",
      "&IB YAM&XAUS&CIM TSOV ROG!!!!!!!!!!!PAHAWH HMONGjpj1&ig&id&ik&io&is&iy&i5&iz&i9!",
      "!PAHAWH HMONGkxTENS&HUNDREDS&kawd&xs&i7xs&kaBILLIONS&TRILLIONS!!PAHAWH HMONGfVOS LUB&XYOO",
      "&HLI&THIRD-STAGE HLI&ZWJ THAJ&HNUB&NQIG&XIAB&NTUJ&AV&TXHEEJ CEEV&MEEJ TSEEB&TAU&LOS&MUS",
      "&CIM HAIS LUS NTOG NTOG*CUAM TSHOOJ*TXWV+CHWV*PUB DAWB*NRES TOS!!!!!",
      "!PAHAWH HMONG CLANfTSHEEJ*YEEG*LIS*LAUJ*XYOOJ*KOO*HAWJ*MUAS*THOJ*TSAB*PHAB*KHAB*HAM*VAJ*FAJ",
      "*YAJ*TSWB*KWM*VWJ"]⟩,
    ⟨0x16E40, [
      "!MEDEFAIDRINebM&S&V&W&ATIU&Z&KP&P&T&G&F&I&K&A&J&E&B&C&U&YU&L&Q&HP&NY&X&D&OE&N&R&O&AI&Y$cbM&S",
      "&V&W&ATIU&Z&KP&P&T&G&F&I&K&A&J&E&B&C&U&YU&L&Q&HP&NY&X&D&OE&N&R&O&AI&Y$jpj1%ig%id%ik%io%is%iy",
      "%i5%iz%i9$kxka%tq%si%wu%wv%ug%uu%wi%vk%ww$jpigped%idped%ikped$k2$lqki$irAIVA$okOH"]⟩,
    ⟨0x16F00, [
      "!MIAObPA%BA%YI PA%PLA%MA%MHA%qcMA%FA%VA%VFA%TA%DA%YIls&TA%ls%lt%NA%NHA%YIl4%qcNA%l4%NNHA%LA",
      "%LYA%LHA%LHYA%TLHA%DLHA%TLHYA%DLHYA%KA%GA%YI KA%QA%QGA%kh%NGHA%qckh%HA%XA%lx%GHHA%TSSA%DZZA",
      "%kr%NYHA%r8%DZHA%YIr8&DZHA%REFORMEDr8%kj%ml%pv%ZSHA%nv%DZA%YInv%SA%ZA%ZSA%ZZA%ZZSA%qcZZA",
      "%ZZYA%ZZSYA%WA%AH%HHA%BRI%SYI%DZYI%TE%TSE%RTE!!!!!MIAOfpdnpi2$bNASALIZATION$fASPIRATION",
      "%REFORMED VOICING&ASPIRATION$jkfA&AA&AHH&AN&ANG&O&OO&WO&W&E&EN&ENG&OEY&I&IA&IAN&IANG&IO&IE",
      "&II&IU&ING&U&UA&UAN&UANG&UU&UEI&UNG&Y&YI&AE&AEE&ERR&utERR&ER&utER&AI&EI&AU&OU&N&NG&UOG&YUI",
      "&OG&OER&VW&IG&EA&IONG&UI!!!!!!!!MIAOj5ia%mdia%ib%ie$bu2%vr%TONE-4%u3%TONE-6%TONE-7%TONE-8",
      "%REFORMED TONE-1&u2&TONE-4&u3&TONE-6&TONE-8"]⟩,
    ⟨0x16FE0, [
      "!TANGUTviij!NUSHUviij!ljCHINESEipij%viij!KHITANco8vt!!!!!!!!!!!!VIETNAMESEpeREADINGijCA*NHAY"]⟩,
    ⟨0x1AFF0, [
      "!uebMINNANu2&vr&TONE-4&u3!!uebMINNAN TONE-7&TONE-8&NASALIZED TONE-1*u2*vr*TONE-4*u3!",
      "!uebMINNAN NASALIZED TONE-7*TONE-8!!uebqcE!ymbqcYE!HENTAIGANAbA-1%A-2%A-3%A-WO%I-1%I-2%I-3",
      "%I-4%U-1%U-2%U-3%U-4%U-5%E-2%E-3%E-4%E-5%E-6%O-1%O-2%O-3%KA-1%KA-2%KA-3%KA-4%KA-5%KA-6%KA-7",
      "%KA-8%KA-9%KA-10%KA-11%KA-KE%KI-1%KI-2%KI-3%KI-4%KI-5%KI-6%KI-7%KI-8%KU-1%KU-2%KU-3%KU-4",
      "%KU-5%KU-6%KU-7%KE-1%KE-2%KE-3%KE-4%KE-5%KE-6%KO-1%KO-2%KO-3%KO-KI%SA-1%SA-2%SA-3%SA-4%SA-5",
      "%SA-6%SA-7%SA-8%SI-1%SI-2%SI-3%SI-4%SI-5%SI-6%SU-1%SU-2%SU-3%SU-4%SU-5%SU-6%SU-7%SU-8%SE-1",
      "%SE-2%SE-3%SE-4%SE-5%SO-1%SO-2%SO-3%SO-4%SO-5%SO-6%SO-7%TA-1%TA-2%TA-3%TA-4%TI-1%TI-2%TI-3",
      "%TI-4%TI-5%TI-6%TI-7%TU-1%TU-2%TU-3%TU-4%TU-TO%TE-1%TE-2%TE-3%TE-4%TE-5%TE-6%TE-7%TE-8%TE-9",
      "%TO-1%TO-2%TO-3%TO-4%TO-5%TO-6%TO-RA%NA-1%NA-2%NA-3%NA-4%NA-5%NA-6%NA-7%NA-8%NA-9%NI-1%NI-2",
      "%NI-3%NI-4%NI-5%NI-6%NI-7%NI-TE%NU-1%NU-2%NU-3%NE-1%NE-2%NE-3%NE-4%NE-5%NE-6%NE-KO%NO-1%NO-2",
      "%NO-3%NO-4%NO-5%HA-1%HA-2%HA-3%HA-4%HA-5%HA-6%HA-7%HA-8%HA-9%HA-10%HA-11%HI-1%HI-2%HI-3%HI-4",
      "%HI-5%HI-6%HI-7%HU-1%HU-2%HU-3%HE-1%HE-2%HE-3%HE-4%HE-5%HE-6%HE-7%HO-1%HO-2%HO-3%HO-4%HO-5",
      "%HO-6%HO-7%HO-8%MA-1%MA-2%MA-3%MA-4%MA-5%MA-6%MA-7%MI-1%MI-2%MI-3%MI-4%MI-5%MI-6%MI-7%MU-1",
      "%MU-2%MU-3%MU-4%ME-1%ME-2%ME-MA%MO-1%MO-2%MO-3%MO-4%MO-5%MO-6%YA-1%YA-2%YA-3%YA-4%YA-5%YA-YO",
      "%YU-1%YU-2%YU-3%YU-4%YO-1%YO-2%YO-3%YO-4%YO-5%YO-6%RA-1%RA-2%RA-3%RA-4%RI-1%RI-2%RI-3%RI-4",
      "%RI-5%RI-6%RI-7%RU-1%RU-2%RU-3%RU-4%RU-5%RU-6%RE-1%RE-2%RE-3%RE-4%RO-1%RO-2%RO-3%RO-4%RO-5",
      "%RO-6%WA-1%WA-2%WA-3%WA-4%WA-5%WI-1%WI-2%WI-3%WI-4%WI-5%WE-1%WE-2%WE-3%WE-4%WO-1%WO-2%WO-3",
      "%WO-4%WO-5%WO-6%WO-7%N-MU-MO-1%N-MU-MO-2!ymbqcWU!uebqcYI&YE&WU"]⟩,
    ⟨0x1B150, ["!ymbcWI&WE&WO!!!!!!!!!!!!!!!!!!uebcWI&WE&WO&N"]⟩,
    ⟨0x1BC00, [
      "!DUPLOYANbH%X%P%T%F%K%L%B%D%V%G%R%P N%D S%F N%K M%R S%TH%SLOAN DH%DH%KK%SLOAN J%HL%LH%RH%M%N",
      "%J%S%M N%N M%J M%S J%Maii%Naii%Jaii*jeqegib%Saii+ie%M S%N S%J S%S S%M N S%N M S%J M S%S J S",
      "%J Saii&N*S%S T*R&P*R%T S&R S%W%WH%W R%S N&M%K R S%G R S%S K*R%A%SLOAN OW%OA%O%AOU%I%E%IE",
      "%lpI%UI%EE%SLOAN EH%ROMANIAN I%SLOAN EE%j9I%YE%U%EU%XW%U N%j9U%ROMANIAN U%UH%SLOAN U%OOH%OW",
      "%OU%WA%WO%WI%WEI%WOW%NASAL U&O&I&A%PERNIN AN&AM%SLOAN EN&AN&ON%k7M!!!!!!DUPLOYAN AFFIXicjnxi",
      "%MIDjnxi%iajnxi%jvixxi%MIDixxi%kgixxi%yhxi&y6xi&TANGENT&le&Eip&Iip&TANGENTip!!!",
      "!DUPLOYAN AFFIXkgjx&TIGHTjx&ko&j9ko&ii&jd&kq&pt&ix!!!!!!!!DUPLOYAN AFFIXjvjx&TIGHTjx&ko&j9ko",
      "&ii&jd&kq&pt&ix&h!!!DUPLOYANfOal0$THICKbSELECTOR$ihij$l8CHINOOKlqki!SHORTHAND FORMATbOVERLAP",
      "%CONTINUING OVERLAP%i8STEP%UP STEP"]⟩,
    ⟨0x1CF00, [
      "!ZNAMENNYmmijGORAZDO NIZKO StlONic&NIZKO StlONic&TSATA ONic&GORAZDO NIZKO ONic&NIZKO ONic",
      "&SREDNE ONic&MALOtmONic&tmONic&VYSOKO ONic&MALOtmSyoONic&tmSyoONic&VYSOKO SyoONic",
      "&GORAZDO NIZKO StlONia&NIZKO StlONia&TSATA ONia&GORAZDO NIZKO ONia&NIZKO ONia&SREDNE ONia",
      "&MALOtmONia&tmONia&VYSOKO ONia&MALOtmSyoONia&tmSyoONia&VYSOKO SyoONia&TSATA Stl&MALOtmStl",
      "&STRANNO MALOtm&tmStl*STRANNO&VYSOKO Stl&MALOtmSTRANNO&GORAZDO VYSOKO&ZELO&ON&RAVNO&TIKHAYA",
      "&BORZAYA&UDARKA&PODVERTKA&LOMKA&KUPNAYA&KACHKA&ZEVOK&SKOBA&RAZSEKA&KRYZH ONic!!",
      "!ZNAMENNYmmTONAL RANGEijMRACHNO+SVETLO+TRESVETLO%ijZADERZHKA&DEMESTVENNY ZADERZHKA&OTSECHKA",
      "&PODCHASHIE*aixiq&CHASHKA*POLNAYA&OBLACHKO&SOROCHYA NOZHKA&TOCHKA&DVOETOCHIE%ATTACHINGixOMET",
      "%ijujOMET&KRYZH%jtTONAL RANGEwc$PRIZNAKnpLEVEL-2&LEVEL-3&DIRECTION FLIP&KRYZH&ROG!!!!!!!!!",
      "!ZNAMENNY NEUME KRYUK&TIKHY%PARAKLIT%DVA V CHELNU%KLYUCH%ZANOZHEK%STOPITSA&S OCHKOM",
      "%PEREVODKA&y5%STOPITSAaSOROCHYA NOZHKA%CHELYUSTKA%PALKA%wl%GOLUBCHIK BORZY&TIKHY&MRACHNY",
      "&SVETLY&TRESVETLY%VRAKHIYA PROSTAYA&MRACHNAYA&wz&z5&xlPROSTAYA*MRACHNAYA*wz*z5%ihwl",
      "%kdCHELYUSTKA%DERBITSA%KHAMILO%CHASHKA%PODCHASHIE%SKAMEYTSA MRACHNAYA&wz&z5&TIKHAYA",
      "%DEMESTVENNY KLYUCH%SKAMEYTSAxlwz&KLYUCHENEPOSTOYANNAYA&xlTIKHAYA&DVOECHELNAYA PROSTAYA*wz",
      "*y5*xl%SLOZHITIE&Syp&ZAKRYTOE&Stl%KRYZH%ROG%FITA%KOBYLA%ZMEYTSA%STATYA&Syp*tl*ypItl*tlIyp",
      "&ZAKRYTAYA*Syp&S ROGOM*DVUMYA ZAPYATYMI*ypI PODCHASHIEM%POLKULIZMY%STATYAy5%STRELA PROSTAYA",
      "&MRACHNOTIKHAYA&KRYZHEVAYA&POLUPOVODNAYA&POVODNAYA&y5&KLYUCHEPOVODNAYA&KLYUCHENEPOSTOYANNAYA",
      "&TIKHAYA PUTNAYA&DVOECHELNAYA&DVOECHELNOKRYZHEVAYA&DVOECHELNOPOVODNAYA&DVOECHELNAYAxl",
      "&DVOECHELNOPOVODNAYAxl&GROMNAYAaknwl&zkaknwl&GROMNAYA&zk*aihwl&GROMOKRYZHEVAYA*POVODNAYA",
      "%MECHIK&POVODNY&KLYUCHEVOY&KLYUCHEPOVODNY&KLYUCHENEPOSTOYANNY%STRELA TRYASOGLASNAYA",
      "&TRYASOPOVODNAYA&TRYASOSTRELNAYA%OSOKA&wz&z5&KRYUKOVAYAwz&xlwz*y5%STRELA KRYUKOVAYA",
      "*POVODNAYA*GROMNAYAaknwl*zkaknwl*GROMNAYA*zk+aihwl*GROMOKRYZHEVAYA+POVODNAYA*TRYASKA%KUFISMA",
      "%OBLAKO%DUDA%NEMKA%PAUK"]⟩,
    ⟨0x1D000, [
      "!BYZANTINEtkirke&DASEIA&l5&OXEIAz6*DIPLI&VAREIAz6*DIPLI&KATHISTI&SYRMATIKI&PARAKLITIKI",
      "&YPOKRISIS*DIPLI&KREMASTI&APESOz6&EXOz6&TELEIA&zf&APOSTROFOS*DIPLI&SYNEVMA&THITA&OLIGONqb",
      "&GORGONqb&PSILON&CHAMILON&VATHY&ISONqb&KENTIMAqb&zfqb&SAXIMATA&PARICHON&STAVROS APODEXIA",
      "&OXEIAIqb&VAREIAIqb&APODERMAqb&APOTHEMA&KLASMA&REVMA&PIASMAqb&TINAGMA&ANATRICHISMA&SEISMA",
      "&SYNAGMAqb*META STAVROU&OYRANISMAqb&THEMA&LEMOI&DYO&TRIA&TESSERA&KRATIMATA&APESO EXOoj",
      "&FTHORAqb&IMIFTHORA&TROMIKONqb&KATAVA TROMIKON&PELASTON&PSIFISTON&KONTEVMA&CHOREVMAqb",
      "&RAPISMA&PARAKALESMAqb&PARAKLITIKIqb&ICHADIN&NANA&PETASMA&KONTEVMA ALLO&TROMIKON ALLO",
      "&STRAGGISMATA&GRONTHISMATA&ISONoj&OLIGONoj&OXEIAoj&PETASTI&KOUFISMA&PETASTOKOUFISMA",
      "&KRATIMOKOUFISMA&PELASTONoj&zfojANO&KENTIMAojANO&YPSILI&APOSTROFOSoj&APOSTROFOI SYNDESMOSoj",
      "&YPORROI&KRATIMOYPORROON&ELAFRON&CHAMILI&MIKRON ISON&VAREIAoj&PIASMAoj&PSIFISTONoj&OMALON",
      "&ANTIKENOMA&LYGISMA&PARAKLITIKIoj&PARAKALESMAoj&ETERON PARAKALESMA&KYLISMA&ANTIKENOKYLISMA",
      "&TROMIKONoj&EKSTREPTON&SYNAGMAoj&SYRMA&CHOREVMAoj&EPEGERMA&SEISMAoj&XIRON KLASMA",
      "&TROMIKOPSIFISTON&PSIFISTOLYGISMA&TROMIKOLYGISMA&TROMIKOPARAKALESMA&PSIFISTOPARAKALESMA",
      "&TROMIKOSYNAGMA&PSIFISTOSYNAGMA&GORGOSYNTHETON&ARGOSYNTHETON&ETERON ARGOSYNTHETON",
      "&OYRANISMAoj&THEMATISMOS ESO*EXO&THEMA APLOUN&THES KAI APOTHES&KATAVASMA&ENDOFONON&YFEN KATO",
      "*ANO&STAVROS&KLASMA ANO&DIPLIqb&KRATIMAqb*ALLO*oj&APODERMAoj&APLI&DIPLI&TRIPLI&TETRAPLI",
      "&KORONIS&LEIMMA ENOS CHRONOU*DYO CHRONON*TRION CHRONON*TESSARON CHRONON*IMISEOS CHRONOU",
      "&GORGONojANO*PARESTIGMENON ARISTERA+DEXIA&DIGORGON*PARESTIGMENON ARISTERA KATO,ANO+DEXIA",
      "&TRIGORGON&ARGON&IMIDIARGON&DIARGON&AGOGI POLI ARGI*ARGOTERI*ARGI*METRIA*MESI*GORGI",
      "*GORGOTERI*POLI GORGI&MARTYRIA PROTOSta*ALLI PROTOSta*DEYTEROSta*ALLI DEYTEROSta*TRITOSta",
      "*TRIFONIAS*TETARTOSta+LEGETOSta*LEGETOSta*PLAGIOSta&ISAKIA TELOUS ICHIMATOS",
      "&APOSTROFOI TELOUS ICHIMATOS&FANEROSIS TETRAFONIAS*MONOFONIAS*DIFONIAS&MARTYRIA VARYSta",
      "*PROTOVARYSta*PLAGIOS TETARTOSta&GORTHMIKON N APLOUN+DIPLOUN&ENARXIS KAI FTHORA VOU&IMIFONON",
      "&IMIFTHORON&FTHORAqbDEYTEROU ICHOU*DIATONIKI PA+NANA*NAOSta*DIATONIKI DI*SKLIRON DIATONON DI",
      "*DIATONIKI KE+ZO+NI KATO,ANO*MALAKON CHROMA DIFONIAS,MONOFONIAS&FHTORA SKLIRON CHROMA VASIS",
      "&FTHORA SKLIRON CHROMA SYNAFI*NENANO&CHROA ZYGOS*KLITON*SPATHI&FTHORA I YFESIS TETARTIMORION",
      "*ENARMONIOS ANTIFONIA&YFESIS TRITIMORION&DIESIS TRITIMORION*TETARTIMORION*APLI DYOw0",
      "*MONOGRAMMOS TESSERAw0*DIGRAMMOS EXw0*TRIGRAMMOS OKTOw0&YFESIS APLI DYOw0",
      "*MONOGRAMMOS TESSERAw0*DIGRAMMOS EXw0*TRIGRAMMOS OKTOw0&GENIKI DIESIS*YFESIS",
      "&DIASTOLI APLI MIKRI+MEGALI*DIPLI*THESEOS&SIMANSIS THESEOS+DISIMOU+TRISIMOU+TETRASIMOU",
      "*ARSEOS+DISIMOU+TRISIMOU+TETRASIMOU&DIGRAMMA GG&DIFTOGGOS OU&STIGMA&ARKTIKO PA*VOU*GA*DI*KE",
      "*ZO*NI&zfojMESO&KENTIMAojMESO&zfojKATO&KENTIMAojKATO&KLASMA KATO&GORGONojKATO!!!!!!!!!!",
      "!tkirkny0%ihy0%ify0%pwify0%s4y0%lpy0%icREPEATf%iaREPEATf%REPEATje%DAL SEGNO%DA CAPO%SEGNO",
      "%CODA%REPEATED FIGURE-1&FIGURE-2&FIGURE-3%FERMATA&ie%BREATHij%CAESURA%BRACE%ja",
      "%ONE-LINE STAFF%TWO-LINE STAFF%THREE-LINE STAFF%FOUR-LINE STAFF%FIVE-LINE STAFF",
      "%SIX-LINE STAFF%SIX-STRING FRETBOARD%FOUR-STRING FRETBOARD%G CLEF*OTTAVA ALTA+BASSA%C CLEF",
      "%F CLEF*OTTAVA ALTA+BASSA%DRUM CLEF-1&CLEF-2!!!tkirstyzqw%ihSHARP&FLAT%FLAT UP&i8%NATURAL UP",
      "&i8%SHARP UP&i8%m9j5SHARP*FLAT%COMMON TIME%CUT TIME%OTTAVA ALTA&BASSA%QUINDICESIMA ALTA",
      "&BASSA%MULTIqw%WHOLEqw%i6qw%m9qw%odqw%ycqw%THIRTY-SECONDqw%SIXTY-FOURTHqw",
      "%igi7TWENTY-EIGHTHqw%Xtj%i3tj%jdXtj%jbtjin*il%jstjUPin+il*icin+il*iain+il*i8in+il*UPiain,il",
      "%oqtjin*il%TRIANGLE-ROUNDtji8in+il%matj%VOIDtj%tjil%NULLtj%CLUSTERtjin*il%lc%WHOLEp3%i6p3",
      "%m9p3%odp3%ycp3%THIRTY-SECONDp3%SIXTY-FOURTHp3%igi7TWENTY-EIGHTHp3%mmSTEM&SPRECHGESANG STEM",
      "&TREMOLO-1&TREMOLO-2&TREMOLO-3%FINGERED TREMOLO-1&TREMOLO-2&TREMOLO-3%mmAUGMENTATIONii",
      "&FLAG-1&FLAG-2&FLAG-3&FLAG-4&FLAG-5%BEGIN BEAM%ntBEAM%BEGIN TIE%ntTIE%BEGIN SLUR%ntSLUR",
      "%BEGIN PHRASE%ntPHRASE%mmmn&STACCATO&TENUTO&STACCATISSIMO&MARCATO&MARCATO-STACCATO",
      "&ACCENT-STACCATO&LOURE%ARPEGGIATO UP&i8%mmDOIT&RIP&FLIP&SMEAR&BEND&ihTONGUE&lzTONGUE",
      "%RINFORZANDO%SUBITO%Z%PIANO%MEZZO%FORTE%CRESCENDO%DECRESCENDO%GRACEp3rj*NOrj%TR%TURN%ksTURN",
      "%TURNrj&UP%lkSTROKE-1&STROKE-2&STROKE-3&STROKE-4&STROKE-5&STROKE-6&STROKE-7&STROKE-8",
      "&STROKE-9&STROKE-10&STROKE-11%HAUPTSTIMME%NEBENSTIMME%ntOF STIMME%DEGREErj%mmi8BOW&UP BOW",
      "&HARMONIC&SNAP PIZZICATO%PEDALij&UPij%i6PEDALij%GLISSANDO UP&i8%aFINGERNAILS%DAMP&ALL%MAXIMA",
      "%LONGA%BREVIS%SEMIBREVISin&il%MINIMA&il%SEMIMINIMAin&il%FUSAin&il%LONGA PERFECTAqw",
      "&IMPERFECTAqw%BREVISqw%SEMIBREVISqw%MINIMAqw%SEMIMINIMAqw",
      "%TEMPUS PERFECTUM CUM PROLATIONE PERFECTA,IMPERFECTA,PERFECTA DIMINUTION-1",
      "&IMPERFECTUM CUM PROLATIONE PERFECTA,IMPERFECTA:DIMINUTION-1:DIMINUTION-2:DIMINUTION-3%CROIX",
      "%GREGORIAN C CLEF&F CLEF%jbB%VIRGA%PODATUS%CLIVIS%SCANDICUS%CLIMACUS%TORCULUS%PORRECTUS",
      "&FLEXUS%SCANDICUS FLEXUS%TORCULUS RESUPINUS%PES SUBPUNCTIS%KIEVAN C CLEF&ntOF PIECE&ifp3",
      "&RECITATIVEij&WHOLEp3&i6p3&m9p3STEMi8,UP&odp3STEMi8,UP&FLATf%SORI%KORON!!!!!!!!!!!!!!!!!!!!!",
      "!owVOCALwtSYMBOL-1&SYMBOL-2&SYMBOL-3&SYMBOL-4&SYMBOL-5&SYMBOL-6&SYMBOL-7&SYMBOL-8&SYMBOL-9",
      "&SYMBOL-10&SYMBOL-11&SYMBOL-12&SYMBOL-13&SYMBOL-14&SYMBOL-15&SYMBOL-16&SYMBOL-17&SYMBOL-18",
      "&SYMBOL-19&SYMBOL-20&SYMBOL-21&SYMBOL-22&SYMBOL-23&SYMBOL-24&SYMBOL-50&SYMBOL-51&SYMBOL-52",
      "&SYMBOL-53&SYMBOL-54$INSTRUMENTALwtSYMBOL-1&SYMBOL-2&SYMBOL-4&SYMBOL-5&SYMBOL-7&SYMBOL-8",
      "&SYMBOL-11&SYMBOL-12&SYMBOL-13&SYMBOL-14&SYMBOL-17&SYMBOL-18&SYMBOL-19&SYMBOL-23&SYMBOL-24",
      "&SYMBOL-25&SYMBOL-26&SYMBOL-27&SYMBOL-29&SYMBOL-30&SYMBOL-32&SYMBOL-36&SYMBOL-37&SYMBOL-38",
      "&SYMBOL-39&SYMBOL-40&SYMBOL-42&SYMBOL-43&SYMBOL-45&SYMBOL-47&SYMBOL-48&SYMBOL-49&SYMBOL-50",
      "&SYMBOL-51&SYMBOL-52&SYMBOL-53&SYMBOL-54!mmowtkTRISEME&TETRASEME&PENTASEME!owtkLEIMMA"]⟩,
    ⟨0x1D2E0, [
      "!MAYANusj1%ig%id%ik%io%is%iy%i5%iz%i9%ka%tq%si%wu%wv%ug%uu%wi%vk%ww!!!!!!!!!!!!!ykmtsm",
      "!DIGRAMmtHEAVENLYsm%HUMANsm%EARTHLY HEAVEN&HUMAN%sm!TETRAGRAMmtlb%lqjd%MIRED%BARRIER",
      "%KEEPINGc%CONTRARIETY%ASCENT%OPPOSITION%BRANCHING OUT%DEFECTIVENESS OR DISTORTION%DIVERGENCE",
      "%YOUTHFULNESS%INCREASE%PENETRATION%REACH%y1%yxt8%WAITING%FOLLOWING%ADVANCE%RELEASE",
      "%RESISTANCE%EASE%JOY%CONTENTION%ENDEAVOUR%DUTIES%CHANGE%DECISIVENESS%n2RESOLUTION%PACKING",
      "%LEGION%CLOSENESS%KINSHIP%GATHERING%STRENGTH%PURITY%FULLNESS%RESIDENCE%LAW OR MODEL%RESPONSE",
      "%GOING TO MEET%ENCOUNTERS%STOVE%GREATNESS%ENLARGEMENT%PATTERN%RITUAL%FLIGHT",
      "%VASTNESS OR WASTING%CONSTANCY%yz%ETERNITY%UNITY%DIMINISHMENT%m3px%GUARDEDNESS%GATHERING IN",
      "%MASSING%ACCUMULATION%EMBELLISHMENT%DOUBT%WATCH%SINKING%INNER%DEPARTURE%DARKENING%DIMMING",
      "%EXHAUSTION%SEVERANCE%STOPPAGE%HARDNESS%COMPLETION%CLOSURE%FAILURE%AGGRAVATION%COMPLIANCE",
      "%ONmvVERGE%DIFFICULTIES%LABOURING%FOSTERING!!!!!!!!!!COUNTING ROD UNITjpig*id*ik*io*is*iy*i5",
      "*iz*i9%TENSjpig*id*ik*io*is*iy*i5*iz*i9!rrTALLYijig&id&ik&io&is!TALLYijig%is"]⟩,
    ⟨0x1D400, [
      "!x4n2eA&B&C&D&E&F&G&H&I&J&K&L&M&N&O&P&Q&R&S&T&U&V&W&X&Y&Z%cA&B&C&D&E&F&G&H&I&J&K&L&M&N&O&P&Q",
      "&R&S&T&U&V&W&X&Y&Z$uieA&B&C&D&E&F&G&H&I&J&K&L&M&N&O&P&Q&R&S&T&U&V&W&X&Y&Z%cA&B&C&D&E&F&G!",
      "!x4uicI&J&K&L&M&N&O&P&Q&R&S&T&U&V&W&X&Y&Z$n2uieA*B*C*D*E*F*G*H*I*J*K*L*M*N*O*P*Q*R*S*T*U*V*W",
      "*X*Y*Z&cA*B*C*D*E*F*G*H*I*J*K*L*M*N*O*P*Q*R*S*T*U*V*W*X*Y*Z$o8eA!!x4o8eC&D!!!x4o8eG!!!x4o8eJ",
      "&K!!!x4o8eN&O&P&Q!!x4o8eS&T&U&V&W&X&Y&Z%cA&B&C&D!!x4o8cF!!x4o8cH&I&J&K&L&M&N!!x4o8cP&Q&R&S&T",
      "&U&V&W&X&Y&Z$n2o8eA*B*C*D*E*F*G*H*I*J*K*L*M*N*O*P*Q*R*S*T*U*V*W*X*Y*Z&cA*B*C*D*E*F*G*H*I*J*K",
      "*L*M*N*O*P*Q*R*S*T*U*V*W*X*Y*Z$FRAKTUReA&B!!x4FRAKTUReD&E&F&G!!!x4FRAKTUReJ&K&L&M&N&O&P&Q!",
      "!x4FRAKTUReS&T&U&V&W&X&Y!!x4FRAKTURcA&B&C&D&E&F&G&H&I&J&K&L&M&N&O&P&Q&R&S&T&U&V&W&X&Y&Z$uaeA",
      "&B!!x4uaeD&E&F&G!!x4uaeI&J&K&L&M!!x4uaeO!!!!x4uaeS&T&U&V&W&X&Y!!x4uacA&B&C&D&E&F&G&H&I&J&K&L",
      "&M&N&O&P&Q&R&S&T&U&V&W&X&Y&Z$n2FRAKTUReA*B*C*D*E*F*G*H*I*J*K*L*M*N*O*P*Q*R*S*T*U*V*W*X*Y*Z",
      "&cA*B*C*D*E*F*G*H*I*J*K*L*M*N*O*P*Q*R*S*T*U*V*W*X*Y*Z$pceA&B&C&D&E&F&G&H&I&J&K&L&M&N&O&P&Q&R",
      "&S&T&U&V&W&X&Y&Z%cA&B&C&D&E&F&G&H&I&J&K&L&M&N&O&P&Q&R&S&T&U&V&W&X&Y&Z%n2eA*B*C*D*E*F*G*H*I*J",
      "*K*L*M*N*O*P*Q*R*S*T*U*V*W*X*Y*Z&cA*B*C*D*E*F*G*H*I*J*K*L*M*N*O*P*Q*R*S*T*U*V*W*X*Y*Z%uieA*B",
      "*C*D*E*F*G*H*I*J*K*L*M*N*O*P*Q*R*S*T*U*V*W*X*Y*Z&cA*B*C*D*E*F*G*H*I*J*K*L*M*N*O*P*Q*R*S*T*U",
      "*V*W*X*Y*Z%n2uieA+B+C+D+E+F+G+H+I+J+K+L+M+N+O+P+Q+R+S+T+U+V+W+X+Y+Z*cA+B+C+D+E+F+G+H+I+J+K+L",
      "+M+N+O+P+Q+R+S+T+U+V+W+X+Y+Z$MONOSPACEeA&B&C&D&E&F&G&H&I&J&K&L&M&N&O&P&Q&R&S&T&U&V&W&X&Y&Z",
      "%cA&B&C&D&E&F&G&H&I&J&K&L&M&N&O&P&Q&R&S&T&U&V&W&X&Y&Z$uicsfI*J!!!x4n2ena&qh&pq&p2&ol&tb&pz",
      "&ox&nk&qr&sk&MU&NU&XI&qn&PI&of&oxir&op&TAU&n6&oz&pa&PSI&ms%NABLA%cna&qh&pq&p2&ol&tb&pz&ox&nk",
      "&qr&sk&MU&NU&XI&qn&PI&of&ifop&op&TAU&n6&oz&pa&PSI&ms%ytx5%olir%oxir%qrir%ozir%ofir%PIir",
      "$uiena&qh&pq&p2&ol&tb&pz&ox&nk&qr&sk&MU&NU&XI&qn&PI&of&oxir&op&TAU&n6&oz&pa&PSI&ms%NABLA%cna",
      "&qh&pq&p2&ol&tb&pz&ox&nk&qr&sk&MU&NU&XI&qn&PI&of&ifop&op&TAU&n6&oz&pa&PSI&ms%ytx5%olir%oxir",
      "%qrir%ozir%ofir%PIir$n2uiena*qh*pq*p2*ol*tb*pz*ox*nk*qr*sk*MU*NU*XI*qn*PI*of*oxir*op*TAU*n6",
      "*oz*pa*PSI*ms&NABLA&cna*qh*pq*p2*ol*tb*pz*ox*nk*qr*sk*MU*NU*XI*qn*PI*of*ifop*op*TAU*n6*oz*pa",
      "*PSI*ms&ytx5&olir&oxir&qrir&ozir&ofir&PIir$pcn2ena*qh*pq*p2*ol*tb*pz*ox*nk*qr*sk*MU*NU*XI*qn",
      "*PI*of*oxir*op*TAU*n6*oz*pa*PSI*ms&NABLA&cna*qh*pq*p2*ol*tb*pz*ox*nk*qr*sk*MU*NU*XI*qn*PI*of",
      "*ifop*op*TAU*n6*oz*pa*PSI*ms&ytx5&olir&oxir&qrir&ozir&ofir&PIir&uiena+qh+pq+p2+ol+tb+pz+ox",
      "+nk+qr+sk+MU+NU+XI+qn+PI+of+oxir+op+TAU+n6+oz+pa+PSI+ms*NABLA*cna+qh+pq+p2+ol+tb+pz+ox+nk+qr",
      "+sk+MU+NU+XI+qn+PI+of+ifop+op+TAU+n6+oz+pa+PSI+ms*ytx5*olir*oxir*qrir*ozir*ofir*PIir$n2eyr",
      "%cyr!!!x4n2jpj1&ig&id&ik&io&is&iy&i5&iz&i9$uajpj1&ig&id&ik&io&is&iy&i5&iz&i9$pcjpj1&ig&id&ik",
      "&io&is&iy&i5&iz&i9%n2jpj1*ig*id*ik*io*is*iy*i5*iz*i9$MONOSPACEjpj1&ig&id&ik&io&is&iy&i5&iz",
      "&i9!SIGNWRITINGnwjm$qzjm$xxjm$zgjm$p7jm$tgjm$nwjmns$qzjmns$nwj4v4jmns%jmomKNUCKLE&CUPPED&rh",
      "*jv$qzjmHINGE$nwjmiw$qzjmiw$nwjmiwns*omKNUCKLES*rh&UPiwrh&rhiwUP&iwp8+jmns+iwns+CUPPED+rh*s1",
      "$qzjmiws1$nwiwnsjgjm%jmnsjgiw&iwj4$qzjmiwj4$nwjmiwo3j4ns*nsj4o3*j4ns*rhs5j4or&UPiwrhj4or:p8",
      "&rhiwUPj4or&iwUPs5j4q2*j4CUPPED+lg+HOOKED+rh%j4q0jmiwo3%jmiwp8j4or:p8:ns%iwj4HOOKEDjmUP",
      "%jmj4HOOKEDiwUP&iwp8rhj4or*s1j4or*p8j4q2+CUPPEDj4q2%iwj4CUPPEDjmUP%jmj4CUPPEDiwUP%iwj4lgjmUP",
      ",rh%jmj4ANGLED OUTiwUP+INiwUP*lgiwUP&iwj4p8rh+ANGLED OUT+ANGLED%iwj4ANGLED OUTjmUP:s1+jmUP",
      "%jmj4HOOKEDiwrh$HAND-FLATioo7*ns*rh*p8+SPLIT$HAND-CLAWioo7p8$nwioo7p8ns$p7ioo7p8",
      "$HAND-FLATiso7s5%HEELiso7s5%iso7s5ions%HEELiso7s5ions%iso7s5ns%HEELiso7s5ns%iso7s5j4q2",
      "$xxiso7s5+j6$p7iso7s5j6$zgiso7s5$HAND-FLATiso7s5rh,j4or,NOj4$HAND-FLAT%q0PALM FACINGS%HEEL",
      "%j4or%HEELj4or%j4ns&q2%SPLITjmj4or&lb*j4or,ns&la$HAND-CLAW%j4or%NOj4%j4q2$yeCURLICUE$ye$xxj6",
      "$xx%j6j4or%j4or%j6NOj4%NOj4%j6j4q2%j4q2$zoj6$zo$qz$zg%j4or%NOj4%j4q2$p7j6&j4q2$p7%c%j6j4or",
      "%j4or%j6NOj4%NOj4%j4orTOUCHINGjm&q0iwjq$tg$nwjmiwjq$qzjmiwjq$p7jmiwjq$tgjmiwjq$p7la",
      "$nwjmiwjqns+p8$p7jmiwjqp8$nwlai8*RIPPLEo3+uj*OTHERSlg&UP%j4v4laUP$qzlaUP$zglaUP$tglaUP",
      "$nwlaomKNUCKLE&ns&TOUCHESj4&j4$p7laj4$nwlajmj4$p7lajmj4$tglajmj4jmj4OUT,j4$nwlajm$qzlajm",
      "$p7lajm$tglajm$nwjmiwla$qzjmiwla$p7jmiwla%jq$tgjmiwla$nwjmiwl0la$qzjmiwl0la$nwjqi8",
      "$p7jqi8jmj4ipiw$tgjqi8iwj4jml0$nwjqUP&omKNUCKLE&la$qzjqla$zgjqla$tgjqla$nwjqiw*p8*omKNUCKLES",
      "&jm&j4$yejqj4$nwjmjqla$qzjmjqla$zojmjqlaON$yejmjqlaOUT+IN+v4$xxjmjqla$p7jmjqla$tgjmjqlaOUT",
      "*la$nwiwi8$p7iw$nwiwUP$qziwUP$nwiwomKNUCKLE&UPj4or$yeiwj4$nwiwj4la&la&jqla$qziwjqla",
      "$zoiwjqlaON$xxiwjqla$p7iwjqla$tgiwjqlaOUT+IN*la$qziwjqlans$HAND-CLAWiwjqlap8,or",
      "$yeiwjqlap8OUT,IN+p8$p7jmrh$nwjmj4or$p7jmj4or$nwjmj4orj4l1,p8,ns+jmns+BOTHns+jmHINGE*q2jmo3",
      ",ns*ip*CURLICUE*qtj4qe$HAND-CLAWjmj4qtj4qe$nwjmj4qtj4v4*jd$xxjmj4*j6$p7jmj4j6*km&j4*c",
      "$tgjmj4OUT*IN&j4$nwj4&HEEL&orl1*p8*ns&q2&q0jmiw*iwjq*jqla&v4ido7&jgido7&v4iko7*ioo7",
      "&jgioomKNUCKLES$nw%HEEL$TOUCHkn%st%q0$GRASPkn%st%q0$STRIKEkn%st%q0$BRUSHkn%st%q0$RUBkn%st%q0",
      "$SURFACE SYMBOLS%q0$SQUEEZEkmkn%ckn%kmst%cst%SEQUENTIAL$FLICKkmkn%ckn%kmst%cst%SEQUENTIAL",
      "$SQUEEZE FLICKql$MOVEMENT-HINGE UPi8km*c&SEQUENTIAL%i8SEQUENTIAL%UPi8qlkm+c%orTOoryl$texjy1",
      "$tdxjy1$tekno3c*jy*km*vp&t0FLEX%iho3&t0FLEX&ql*t0FLEX%l0%lzo3w1&t0FLEX&ql*t0FLEX%BENDc&jy&km",
      "%nec&jy&km&ROTATION%tyc&jy&km%oic&jy&km%xbc&jy&km%PEAKSc&jy&km$TRAVEL-WALLPLANEy3kn&ih&ql",
      "%y2kn&ih&ql%SHAKING%ARM SPIRALkn*ih*lz$MOVEMENT-DIAGONAL AWAYc&jy&km&vp%TOWARDSc&jy&km&vp",
      "%q0AWAYc*jy*km*vp&TOWARDSc*jy*km*vp$tdkno3c*jy*km*vp&t0FLEX%iho3&t0FLEX&ql*t0FLEX%l0%lzo3w1",
      "&t0FLEX&qlw1*t0FLEX%BEND%nec&jy&km%ty%oic&jy&km%xbc&jy&km%PEAKSc&jy&km$TRAVEL-FLOORPLANEy2kn",
      "&ih&ql%y3kn&ih&ql%SHAKING$teqtm9c*jy*km*vp&HALF-CIRCLEc*jy*km*vp&THREE-QUARTERjdc+jy%HUMPc",
      "&jy&km%quc&jy&km&cih%ptqtihc+jy+km*lzc+jy+km%qtTHENo3%ujl0c*jy$y3kn%ih%pe$teSHAKING",
      "%qtniFRONT WALL%HUMPniFRONT WALL%quniFRONT WALL%ptniFRONT WALL$y3knniFRONT WALL",
      "%ihniFRONT WALL%qlniFRONT WALL$teqtniCHEST%HUMPniCHEST%quniCHEST%ptniCHEST$y3knniCHEST",
      "%ihniCHEST%qlniCHEST$teptl1PATHc+jy+km$tdqtnivnc+km%HUMPnivncih+kmih+clz+kmlz%qunivnckn+kmkn",
      "+cih+kmih%ptnivnc+km$y2knnivn%ihnivn%qlnivn$tdqtnivbc+km%HUMPnivbcih+kmih+lzclz,kmlz",
      "%qunivbckn+kmkn+cih+kmih%ptnivbc+km$y2knnivb%ihnivb%qlnivb$tdqtc&jy&km&vp&COMBINED%HUMPc%quc",
      "%ptSNAKE&c&km$y2kn%ih%ql$tdSHAKINGwr$teARMjdckn*jykn*cih*jyih$tdARMjdniWALLckn,jykn,kmkn,cih",
      ",jyih,kmih$tet0jdFRONTkn+ih$tdt0jdniWALLkn,ih$texjs2kn*ih$tdxjs2niWALLkn,ih$DYNAMICkkc&km",
      "%FAST%SLOW%TENSE%RELAXED%SIMULTANEOUS&ql%EVERY OTHER TIME%GRADUAL$qi%RIM%teo3&TILT%tdo3%teqt",
      "%tdqt%w1jd$jcDIRECTION POSITION NOSEq2TILTING+UP ORi8;TILTING$EYEBROWSo3UP&pn&i8",
      "$DREAMY EYEBROWSpni8&i8pn&UPpn&pnUP$FOREHEADpn%y1%xy$pyj6%SQUEEZED%m3$EYE BLINKkn&st$pyi6j6",
      "%WIDEj6%i6m3%WIDENINGw1$EYE WINK$EYELASHES UP%i8%FLUTTERING$z9o3&ih&ql$EYEGAZE-FLOORPLANEo3",
      "&ih&ql$z9uj$EYEGAZE-FLOORPLANEuj$z9CIRCLING$CHEEKS PUFFED%pn%SUCKED$TENSE CHEEKSkg&iw&jv",
      "$EARS$NOSEpn%y1%WRINKLES%WIGGLES$AIR BLOWING OUT%SUCKING IN%BLOWcROTATIONS%SUCKcROTATIONS",
      "$BREATH INHALE%EXHALE$pxm3pn&q2&y1%SMILE&xy&j6%FROWN&xy&j6%j6jd&q2&xy&OVAL*xy*YAWN&xq*xy",
      "*YAWN%KISS&q2&xy%TENSE&q2&SUCKED$LIPS PRESSED TOGETHER$LIPjtjgj3%j3jgjt$pxyu%WRINKLESkn&ih",
      "$TONGUE STICKING OUT FAR%LICKING LIPS%TIPq0LIPS&TOUCHINGqepx%qepxRELAXED%MOVES AGAINST CHEEK",
      "%lbSTICKING OUT&qepx$TEETH%w1%ON TONGUE*w1&LIPS*w1%BITE LIPS$teJAW$tdJAW$NECK$HAIR",
      "$EXCITEMENT$SHOULDER HIP SPINE&POSITIONS$WALLPLANE SHOULDER HIP MOVE",
      "$FLOORPLANE SHOULDER HIP MOVE$SHOULDER TILTINGnlWAIST$TORSO-WALLPLANEo3STRETCH%ujBEND",
      "$TORSO-FLOORPLANE TWISTING$j3BODY TILTINGnlHIP JOINTS$LIMB COMBINATION%LENGTH-1%LENGTH-2",
      "%LENGTH-3%LENGTH-4%LENGTH-5%LENGTH-6%LENGTH-7$xj$LOCATION-WALLPLANEpp$LOCATION-FLOORPLANEpp",
      "$LOCATION HEIGHT%WIDTH%DEPTH%qiNECK%TORSO%LIMBS DIGITS$k2$lqki$th$nj$ma!!!!!!!!!!!!!!!",
      "!SIGNWRITINGsqMODIFIER-2%MODIFIER-3%MODIFIER-4%MODIFIER-5%MODIFIER-6!",
      "!SIGNWRITING ROTATION MODIFIER-2%MODIFIER-3%MODIFIER-4%MODIFIER-5%MODIFIER-6%MODIFIER-7",
      "%MODIFIER-8%MODIFIER-9%MODIFIER-10%MODIFIER-11%MODIFIER-12%MODIFIER-13%MODIFIER-14",
      "%MODIFIER-15%MODIFIER-16"]⟩,
    ⟨0x1DF00, [
      "!locbFENGn8aTRILL&kdo8G$bcej7G$cbkdK$bceLaBELT$cbLEZHambip&j7YaBELT&kdENG&j7Raj9LEGgmbip",
      "&Taipgmbip$bmbukambip$cbESHaihi2:gps&j7Taps$bksn7kiaps%STRETCHED Caps%cej7K$cbLaxr",
      "&DEZHn8anzip&LaBELTgnzip&ENGanzip&j7Ranzip&Raxrgnzip&TESHn8anzip&EZHanzip&DEZHn8ambip",
      "&Iaiqgmbip&Oambip&TESHn8ambip&Cambip&Saps"]⟩,
    ⟨0x1E000, [
      "!mmGLAGOLITICbAZU&BUKY&VEDE&GLAGOLI&DOBRO&YESTU&ZHIVETE!!mmGLAGOLITICbZEMLJA&IZHE&itIZHE&I",
      "&DJERVI&KAKO&LJUDIJE&MYSLITE&NASHI&ONU&POKOJI&RITSI&SLOVO&TVRIDO&UKU&FRITU&HERU!!",
      "!mmGLAGOLITICbSHTA&TSI&CHRIVI&kj&YERU&YERI&YATI!!mmGLAGOLITICbYU&cn3!!mmGLAGOLITICbYO&yvcn3",
      "&BIGn3&yvBIGn3&FITA"]⟩,
    ⟨0x1E100, [
      "!NYIAKENG PUACHUE HMONGbMA*nv*NTA*TA*HA*NA*XA*NKA*CA*LA*SA*ZA*NCA*NTSA*KA*DA*kr*NRA*VA*NTXA",
      "*TXA*FA*RA*QA*YA*NQA*PA*XYA*NPA*DLA*NPLA*jz*MLA*PLA*GA*p6*A*AA*I*U*O*OO*E*EE*W!!!",
      "!NYIAKENG PUACHUE HMONG TONE-B&TONE-M&TONE-J&TONE-V&TONE-S&TONE-G&TONE-D&fmtrg+THING",
      "+LOCATION+ANIMAL+INVERTEBRATE*XW XW&rcLENGTHENER!!!NYIAKENG PUACHUE HMONGjpj1*ig*id*ik*io*is",
      "*iy*i5*iz*i9!!!!!NYIAKENG PUACHUE HMONG LOGOGRAM NYAJ&lgCA"]⟩,
    ⟨0x1E290, [
      "!TOTObPA%BA%TA%DA%KA%GA%MA%NA%kh%SA%kp%YA%WA%JA%HA%RA%LA%I%BREATHY I%IU%BREATHY IU%U%E",
      "%BREATHY E%EO%BREATHY EO%O%AE%BREATHY AE%A$fs3j5!!!!!!!!!!!!!!!!!!WANCHObAA%A%BA%CA%DA%GA%YA",
      "%lf%LA%NA%PA%TA%k3%FA%SA%kj%JA%ZA%WA%VA%KA%O%AU%RA%MA%kw%HA%E%I%kh%U%LLHA%nv%TRA%ONG%AANG",
      "%ANG%ING%ON%EN%AAN%kr%UEN%YIH$j5TUP%TUPNI%KOI%KOINI$jpj1%ig%id%ik%io%is%iy%i5%iz%i9!!!!!",
      "!WANCHO NGUNf"]⟩,
    ⟨0x1E7E0, [
      "!ETHIOPICrcHHYA%HHYU%HHYI%HHYAA%HHYEE%HHYE%HHYO!!ETHIOPICrcGURAGE HHWA%HHWI%HHWEE%HHWE!",
      "!ETHIOPICrcGURAGE MWI&MWEE!!ETHIOPICrcGURAGE QWI&QWEE&QWE&BWI&BWEE&KWI&KWEE&KWE&GWI&GWEE&GWE",
      "&FWI&FWEE&PWI&PWEE!!MENDE KIKAKUIrcM001 KI&M002 KA&M003 KU&M065 KEE&M095 KE&M076 KOO&M048 KO",
      "&M179 KUA&M004 WI&M005 WA&M006 WU&M126 WEE&M118 WE&M114 WOO&M045 WO&M194 WUI&M143 WEI",
      "&M061 WVI&M049 WVA&M139 WVE&M007 MIN&M008p0&M009 MUN&M059 MEN&M094 MON&M154 MUAN&M189 MUEN",
      "&M010 BI&M011 BA&M012 BU&M150 BEE&M097 BE&M103 BOO&M138 BO&M013 I&M014 A&M015 U&M163 EE",
      "&M100 E&M165 OO&M147 O&M137 EI&M131 IN&M135 IN&M195 AN&M178 EN&M019 SI&M020 SA&M021 SU",
      "&M162 SEE&M116 SE&M136 SOO&M079 SO&M196 SIA&M025 LI&M026 LA&M027 LU&M084 LEE&M073 LE",
      "&M054 LOO&M153 LO&M110j9LE&M016 DI&M017 DA&M018 DU&M089 DEE&M180 DOO&M181 DO&M022 TI&M023 TA",
      "&M024 TU&M091 TEE&M055 TE&M104 TOO&M069 TO&M028 JI&M029 JA&M030 JU&M157 JEE&M113 JE&M160 JOO",
      "&M063 JO&M175j9JO&M031 YI&M032 YA&M033 YU&M109 YEE&M080 YE&M141 YOO&M121 YO&M034 FI&M035 FA",
      "&M036 FU&M078 FEE&M075 FE&M133 FOO&M088 FO&M197 FUA&M101 FAN&M037 NIN&M038 NAN&M039lw",
      "&M117 NEN&M169 NON&M176 HI&M041 HA&M186 HU&M040 HEE&M096 HE&M042 HOO&M140 HO&M083 HEEI",
      "&M128 HOOU&M053 HIN&M130 HAN&M087 HUN&M052 HEN&M193 HON&M046 HUAN&M090 NGGI&M043 NGGA",
      "&M082 NGGU&M115 NGGEE&M146 NGGE&M156 NGGOO&M120 NGGO&M159 NGGAA&M127 NGGUA&M086j9NGGE",
      "&M106j9NGGOO&M183j9NGGO&M155 GI&M111 GA&M168 GU&M190 GEE&M166 GUEI&M167 GUAN&M184 NGEN",
      "&M057 NGON&M177 NGUAN&M068 PI&M099 PA&M050 PU&M081 PEE&M051 PE&M102 POO&M066 PO&M145 MBI",
      "&M062 MBA&M122 MBU&M047 MBEE&M188 MBEE&M072 MBE&M172 MBOO&M174 MBO&M187 MBUU&M161j9MBE",
      "&M105j9MBOO&M142j9MBO&M132 KPI&M092 KPA&M074 KPU&M044 KPEE&M108 KPE&M112 KPOO&M158 KPO",
      "&M124 GBI&M056 GBA&M148 GBU&M093 GBEE&M107 GBE&M071 GBOO&M070 GBO&M171 RA&M123 NDI&M129 NDA",
      "&M125 NDU&M191 NDEE&M119 NDE&M067 NDOO&M064 NDO&M152 NJA&M192 NJU&M149 NJEE&M134 NJOO",
      "&M182 VI&M185 VA&M151 VU&M173 VEE&M085 VE&M144 VOO&M077 VO&M164 NYIN&M058 NYAN&M170 NYUN",
      "&M098 NYEN&M060 NYON!!!MENDE KIKAKUIjpig&id&ik&io&is&iy&i5&iz&i9%mmkxTEENS*TENS*HUNDREDS*wd",
      "*kawd*i7wd*xs"]⟩,
    ⟨0x1E900, [
      "!ADLAMebALIF&DAALI&LAAM&MIIM&BA&SINNYIIYHE&PE&BHE&RA&E&FA&I&O&lv&YHE&mu&lw&nu&YA&U&JIIM&pa",
      "&HA&QAAF&GA&kr&TU&NHA&VA&kw&GBE&ZAL&KPO&kj$cbALIF&DAALI&LAAM&MIIM&BA&SINNYIIYHE&PE&BHE&RA&E",
      "&FA&I&O&lv&YHE&mu&lw&nu&YA&U&JIIM&pa&HA&QAAF&GA&kr&TU&NHA&VA&kw&GBE&ZAL&KPO&kj",
      "$ALIF LENGTHENER$jkLENGTHENER$zbij$my$pdnp$GEMINATEpdnp$oy$NASALIZATIONij!!!!!ADLAMjpj1%ig",
      "%id%ik%io%is%iy%i5%iz%i9!!!!!ADLAMitokij%nxij"]⟩,
    ⟨0x1EC71, [
      "!INDIC SIYAQkxig&id&ik&io&is&iy&i5&iz&i9&ka&mf&po&qs&nb&q5&m4&r1&mr&igi7&idi7&iki7&ioi7&isi7",
      "&iyi7&i5i7&izi7&i9i7&igjh&idjh&ikjh&iojh&isjh&iyjh&i5jh&izjh&i9jh&kajh&mfjh&pojh&qsjh&nbjh",
      "&q5jh&m4jh&r1jh&mrjh&LAKH&LAKHAN%LAKHij%kxKAROR&KARORAN&PREFIXEDig*id*ik*io*is*iy*i5*iz*i9",
      "%PLACEHOLDER%p9igm9*i6&ikrt%RUPEEij%kxpeig*id*kajh%peLAKHij"]⟩,
    ⟨0x1ED01, [
      "!OTTOMAN SIYAQkxig&id&ik&io&is&iy&i5&iz&i9&ka&mf&po&qs&nb&q5&m4&r1&mr&igi7&idi7&iki7&ioi7",
      "&isi7&iyi7&i5i7&izi7&i9i7&igjh&idjh&ikjh&iojh&isjh&iyjh&i5jh&izjh&i9jh&kajh&mfjh&pojh&qsjh",
      "&nbjh&q5jh&m4jh&r1jh&mrjh%MARRATAN%pekxid*ik*io*is*iy*i5*iz*i9*ka*ioi7*iyi7*idjh*kajh%p9igi6",
      "*SIXTH"]⟩,
    ⟨0x1EE00, [
      "!qdx4jj%p4%j8%DAL!!qdx4mu%r5%jz%oc%jf%nu%mw%i1%mo%oe%nc%pi%pj%os%nn%qg%p5%t3%lh%THAL%DAD%ZAH",
      "%q4%sfp4&mo&pi&os!!qdx4itp4&j8!!qdx4itn4!!!qdx4itjz!!qdx4itjf&nu&mw&i1&mo&oe&nc&pi&pj&os!",
      "!qdx4itqg&p5&t3&lh!!qdx4itDAD!!qdx4itq4!!!!!!!qdx4TAILEDj8!!!!!qdx4TAILEDjz!!qdx4TAILEDjf!",
      "!qdx4TAILEDmw!!qdx4TAILEDmo&oe&nc!!qdx4TAILEDpj&os!!qdx4TAILEDqg!!!qdx4TAILEDlh!",
      "!qdx4TAILED DAD!!qdx4TAILEDq4!!qdx4TAILEDsfmo!!qdx4TAILEDsfos!!qdx4STRETCHEDp4&j8!",
      "!qdx4STRETCHEDn4!!!qdx4STRETCHEDjz&oc&jf&nu!!qdx4STRETCHEDi1&mo&oe&nc&pi&pj&os!",
      "!qdx4STRETCHEDqg&p5&t3&lh!!qdx4STRETCHED DAD&ZAH&q4&sfp4!!qdx4STRETCHEDsfpi!!qdx4LOOPEDjj&p4",
      "&j8&DAL&n4&mu&r5&jz&oc&jf!!qdx4LOOPEDmw&i1&mo&oe&nc&pi&pj&os&nn&qg&p5&t3&lh&THAL&DAD&ZAH&q4!",
      "!!!!!qdx4uap4&j8&DAL!!qdx4uamu&r5&jz&oc&jf!!qdx4uamw&i1&mo&oe&nc&pi&pj&os&nn&qg&p5&t3&lh",
      "&THAL&DAD&ZAH&q4"]⟩,
    ⟨0x1EEF0, ["!qdx4l6i1ajzaTATWEEL&jzaDAL"]⟩,
    ⟨0x1F000, [
      "!MAHJONG TILEkzWIND%l9WIND%liWIND%luWIND%REDxg%GREENxg%inxg%igOFvg%idOFvg%ikOFvg%ioOFvg",
      "%isOFvg%iyOFvg%i5OFvg%izOFvg%i9OFvg%igOFvq%idOFvq%ikOFvq%ioOFvq%isOFvq%iyOFvq%i5OFvq%izOFvq",
      "%i9OFvq%igOFs2%idOFs2%ikOFs2%ioOFs2%isOFs2%iyOFs2%i5OFs2%izOFs2%i9OFs2%PLUM%ORCHID%BAMBOO",
      "%CHRYSANTHEMUM%SPRING%SUMMER%AUTUMN%WINTER%JOKER%t8!!!!!DOMINO TILEjnt8%HORIZONTAL-00-00",
      "%HORIZONTAL-00-01%HORIZONTAL-00-02%HORIZONTAL-00-03%HORIZONTAL-00-04%HORIZONTAL-00-05",
      "%HORIZONTAL-00-06%HORIZONTAL-01-00%HORIZONTAL-01-01%HORIZONTAL-01-02%HORIZONTAL-01-03",
      "%HORIZONTAL-01-04%HORIZONTAL-01-05%HORIZONTAL-01-06%HORIZONTAL-02-00%HORIZONTAL-02-01",
      "%HORIZONTAL-02-02%HORIZONTAL-02-03%HORIZONTAL-02-04%HORIZONTAL-02-05%HORIZONTAL-02-06",
      "%HORIZONTAL-03-00%HORIZONTAL-03-01%HORIZONTAL-03-02%HORIZONTAL-03-03%HORIZONTAL-03-04",
      "%HORIZONTAL-03-05%HORIZONTAL-03-06%HORIZONTAL-04-00%HORIZONTAL-04-01%HORIZONTAL-04-02",
      "%HORIZONTAL-04-03%HORIZONTAL-04-04%HORIZONTAL-04-05%HORIZONTAL-04-06%HORIZONTAL-05-00",
      "%HORIZONTAL-05-01%HORIZONTAL-05-02%HORIZONTAL-05-03%HORIZONTAL-05-04%HORIZONTAL-05-05",
      "%HORIZONTAL-05-06%HORIZONTAL-06-00%HORIZONTAL-06-01%HORIZONTAL-06-02%HORIZONTAL-06-03",
      "%HORIZONTAL-06-04%HORIZONTAL-06-05%HORIZONTAL-06-06%ixt8%VERTICAL-00-00%VERTICAL-00-01",
      "%VERTICAL-00-02%VERTICAL-00-03%VERTICAL-00-04%VERTICAL-00-05%VERTICAL-00-06%VERTICAL-01-00",
      "%VERTICAL-01-01%VERTICAL-01-02%VERTICAL-01-03%VERTICAL-01-04%VERTICAL-01-05%VERTICAL-01-06",
      "%VERTICAL-02-00%VERTICAL-02-01%VERTICAL-02-02%VERTICAL-02-03%VERTICAL-02-04%VERTICAL-02-05",
      "%VERTICAL-02-06%VERTICAL-03-00%VERTICAL-03-01%VERTICAL-03-02%VERTICAL-03-03%VERTICAL-03-04",
      "%VERTICAL-03-05%VERTICAL-03-06%VERTICAL-04-00%VERTICAL-04-01%VERTICAL-04-02%VERTICAL-04-03",
      "%VERTICAL-04-04%VERTICAL-04-05%VERTICAL-04-06%VERTICAL-05-00%VERTICAL-05-01%VERTICAL-05-02",
      "%VERTICAL-05-03%VERTICAL-05-04%VERTICAL-05-05%VERTICAL-05-06%VERTICAL-06-00%VERTICAL-06-01",
      "%VERTICAL-06-02%VERTICAL-06-03%VERTICAL-06-04%VERTICAL-06-05%VERTICAL-06-06!!!!!!!!!!!!",
      "!PLAYING CARDt8%ACE OFsj%idOFsj%ikOFsj%ioOFsj%isOFsj%iyOFsj%i5OFsj%izOFsj%i9OFsj%kaOFsj",
      "%JACK OFsj%oaOFsj%rkOFsj%qvOFsj!!!PLAYING CARD ACE OFq3%idOFq3%ikOFq3%ioOFq3%isOFq3%iyOFq3",
      "%i5OFq3%izOFq3%i9OFq3%kaOFq3%JACK OFq3%oaOFq3%rkOFq3%qvOFq3%RED JOKER!!PLAYING CARD ACE OFse",
      "%idOFse%ikOFse%ioOFse%isOFse%iyOFse%i5OFse%izOFse%i9OFse%kaOFse%JACK OFse%oaOFse%rkOFse",
      "%qvOFse%ilJOKER!!PLAYING CARD ACE OFsn%idOFsn%ikOFsn%ioOFsn%isOFsn%iyOFsn%i5OFsn%izOFsn",
      "%i9OFsn%kaOFsn%JACK OFsn%oaOFsn%rkOFsn%qvOFsn%inJOKER%FOOL%TRUMP-1%TRUMP-2%TRUMP-3%TRUMP-4",
      "%TRUMP-5%TRUMP-6%TRUMP-7%TRUMP-8%TRUMP-9%TRUMP-10%TRUMP-11%TRUMP-12%TRUMP-13%TRUMP-14",
      "%TRUMP-15%TRUMP-16%TRUMP-17%TRUMP-18%TRUMP-19%TRUMP-20%TRUMP-21!!!!!!!!!!!jpj1lqki%k2$igk2",
      "$idk2$ikk2$iok2$isk2$iyk2$i5k2$izk2$i9k2!DINGBATlgpcjpj1$rulgpcjpj1!lgj1arj$qjh",
      "$x3faOVERLAIDxp!zmloebA*B*C*D*E*F*G*H*I*J*K*L*M*N*O*P*Q*R*S*T*U*V*W*X*Y*Z!qmo9BRACKETEDloebS",
      "!lguiloebC+R$CD$WZ!COPYLEFTir!m1loebA*B*C*D*E*F*G*H*I*J*K*L*M*N*O*P*Q*R*S*T*U*V*W*X*Y*Z$HV",
      "$MV$SD$SS$PPV$WC!rulgloebA+B+C+D+E+F+G+H+I+J+K+L+M+N+O+P+Q+R+S+T+U+V+W+X+Y+Z!omMCf$MDf$MRf",
      "!lgCC$CaOVERLAIDxp$HUMAN FIGURE!rum1loebA+B+C+D+E+F+G+H+I+J+K+L+M+N+O+P+Q+R+S+T+U+V+W+X+Y+Z",
      "!s1rum1loebP!rum1IC%PA%SA%AB%WC!jbDJ!m1CL$COOL$FREE$ID$NEW$NG$OK$SOS$UPaokij$VS$ikD",
      "$SECOND SCREEN$idK$ioK$izK$iss6ig$i5s6ig$TWENTY-TWOs6id$q5P$igi7mfP$locbD$HC$HDR$HI-RES",
      "$LOSSLESS$SHV$UHD$VOD!MASK WORKir"]⟩,
    ⟨0x1F1E6, [
      "!REGIONALwcirbA*B*C*D*E*F*G*H*I*J*K*L*M*N*O*P*Q*R*S*T*U*V*W*X*Y*Z!jbymHOKA!m1ueKOKO%SA!!!!!!",
      "!!!!!!!!m1CJK UNIFIED IDEOGRAPH-624B&IDEOGRAPH-5B57&IDEOGRAPH-53CC$ueDE",
      "$CJK UNIFIED IDEOGRAPH-4E8C&IDEOGRAPH-591A&IDEOGRAPH-89E3&IDEOGRAPH-5929&IDEOGRAPH-4EA4",
      "&IDEOGRAPH-6620&IDEOGRAPH-7121&IDEOGRAPH-6599&IDEOGRAPH-524D&IDEOGRAPH-5F8C&IDEOGRAPH-518D",
      "&IDEOGRAPH-65B0&IDEOGRAPH-521D&IDEOGRAPH-7D42&IDEOGRAPH-751F&IDEOGRAPH-8CA9&IDEOGRAPH-58F0",
      "&IDEOGRAPH-5439&IDEOGRAPH-6F14&IDEOGRAPH-6295&IDEOGRAPH-6355&IDEOGRAPH-4E00&IDEOGRAPH-4E09",
      "&IDEOGRAPH-904A&IDEOGRAPH-5DE6&IDEOGRAPH-4E2D&IDEOGRAPH-53F3&IDEOGRAPH-6307&IDEOGRAPH-8D70",
      "&IDEOGRAPH-6253&IDEOGRAPH-7981&IDEOGRAPH-7A7A&IDEOGRAPH-5408&IDEOGRAPH-6E80&IDEOGRAPH-6709",
      "&IDEOGRAPH-6708&IDEOGRAPH-7533&IDEOGRAPH-5272&IDEOGRAPH-55B6&IDEOGRAPH-914D!!!!",
      "!qmo9BRACKETED CJK UNIFIED IDEOGRAPH-672C+IDEOGRAPH-4E09+IDEOGRAPH-4E8C+IDEOGRAPH-5B89",
      "+IDEOGRAPH-70B9+IDEOGRAPH-6253+IDEOGRAPH-76D7+IDEOGRAPH-52DD+IDEOGRAPH-6557!!!!!!!",
      "!lgIDEOGRAPH ADVANTAGE%ACCEPT!!!!!!!!!!!!!!!utirmtFU&LU&SHOU&XI&SHUANGXI&CAI"]⟩,
    ⟨0x1F300, [
      "!CYCLONE!FOGGY!m3UMBRELLA!NIGHTaSTARS!SUNRISEjgMOUNTAINS!SUNRISE!CITYSCAPE AT DUSK",
      "!SUNSETjgBUILDINGS!RAINBOW!BRIDGE AT NIGHT!s9pt!VOLCANO!MILKY WAY!smGLOBE EUROPE-AFRICA",
      "%AMERICAS%ASIA-AUSTRALIA!GLOBEaMERIDIANS!NEWoqir!WAXINGyjoqir!v2m9oqir!WAXING GIBBOUSoqir",
      "!lqoqir!WANING GIBBOUSoqir!LASTm9oqir!WANINGyjoqir!yjoq!NEWoqajc!v2m9oqajc!LASTm9oqajc",
      "!lqoqajc!SUNajc!GLOWINGk9!SHOOTINGk9!THERMOMETER!ilDROPLET!inSUN%acCLOUD%BEHIND CLOUD*aRAIN",
      "!CLOUDaRAIN%SNOW%LIGHTNING%TORNADO!FOG!WIND BLOWINGjc!HOT DOG!TACO!BURRITO!CHESTNUT!SEEDLING",
      "!EVERGREEN TREE!DECIDUOUS TREE!PALM TREE!CACTUS!HOT PEPPER!TULIP!CHERRY BLOSSOM!ROSE",
      "!HIBISCUS!SUNFLOWER!BLOSSOM!EAR OF MAIZE%RICE!HERB!iopuCLOVER!MAPLEpu!FALLENpu",
      "!puFLUTTERING IN WIND!MUSHROOM!TOMATO!AUBERGINE!GRAPES!MELON!WATERMELON!TANGERINE!LEMON",
      "!BANANA!PINEAPPLE!RED APPLE!GREEN APPLE!PEAR!PEACH!CHERRIES!STRAWBERRY!HAMBURGER",
      "!SLICE OF PIZZA!MEAT ON BONE!POULTRY LEG!RICE CRACKER$t7!COOKED RICE!CURRYgRICE",
      "!STEAMING BOWL!SPAGHETTI!BREAD!FRENCH FRIES!ROASTED SWEET POTATO!DANGO!ODEN!SUSHI",
      "!FRIED SHRIMP!FISH CAKEaSWIRL DESIGN!soICE CREAM!SHAVED ICE!ICE CREAM!DOUGHNUT!COOKIE",
      "!CHOCOLATEi2!CANDY!LOLLIPOP!CUSTARD!HONEY POT!SHORTCAKE!BENTOoi!POT OF FOOD!COOKING",
      "!FORKgKNIFE!TEACUP WITHOUT HANDLE!SAKE BOTTLEgCUP!WINE GLASS!COCKTAIL GLASS!TROPICAL DRINK",
      "!BEER MUG!CLINKING BEER MUGS!BABY BOTTLE!FORKgKNIFEaPLATE!BOTTLEaPOPPING CORK!POPCORN!RIBBON",
      "!WRAPPED PRESENT!BIRTHDAY CAKE!JACK-O-LANTERN!CHRISTMAS TREE!FATHER CHRISTMAS!FIREWORKS",
      "!FIREWORK SPARKLER!BALLOON!PARTY POPPER!CONFETTIt7!TANABATA TREE!s1FLAGS!PINE DECORATION",
      "!xvDOLLS!CARP STREAMER!WIND CHIME!oqVIEWING CEREMONY!SCHOOL SATCHEL!GRADUATION CAP",
      "!n1aTIP ONmvic!BOUQUET OF FLOWERS!MILITARY MEDAL!REMINDER RIBBON!tkKEYBOARDaJACKS",
      "!STUDIO MICROPHONE!LEVEL SLIDER!CONTROL KNOBS!BEAMED ASCENDINGtkNOTES$DESCENDINGtkNOTES",
      "!FILM FRAMES!ADMISSION TICKETS!CAROUSELv5!FERRIS WHEEL!ROLLER COASTER!FISHING POLEgFISH",
      "!MICROPHONE!MOVIE CAMERA!CINEMA!HEADPHONE!ARTIST PALETTE!mdHAT!CIRCUS TENT!TICKET",
      "!CLAPPER BOARD!PERFORMING ARTS!VIDEO GAME!DIRECT HIT!SLOT MACHINE!BILLIARDS!GAME DIE!BOWLING",
      "!FLOWER PLAYING CARDS!tkp3!sttkNOTES!SAXOPHONE!GUITAR!tkKEYBOARD!TRUMPET!VIOLIN!tkSCORE",
      "!RUNNING SHIRTaSASH!TENNIS RACQUETgt7!SKIgSKI BOOT!BASKETBALLgHOOP!CHEQUEREDt6!SNOWBOARDER",
      "!RUNNER!SURFER!SPORTS MEDAL!TROPHY!v5RACING!AMERICAN FOOTBALL!RUGBY FOOTBALL!SWIMMER",
      "!WEIGHT LIFTER!GOLFER!RACING MOTORCYCLE$CAR!CRICKET BATgt7!VOLLEYBALL!FIELD HOCKEY STICKgt7",
      "!ICE HOCKEY STICKgPUCK!TABLE TENNIS PADDLEgt7!SNOW CAPPEDwx!CAMPING!BEACHaUMBRELLA",
      "!BUILDING CONSTRUCTION!HOUSE BUILDINGS!CITYSCAPE!DERELICT HOUSE BUILDING!CLASSICAL BUILDING",
      "!DESERT$ISLAND!NATIONAL PARK!STADIUM!HOUSE BUILDING$aGARDEN!OFFICE BUILDING!xvPOST OFFICE",
      "!EUROPEAN POST OFFICE!HOSPITAL!BANK!AUTOMATED TELLER MACHINE!HOTEL!LOVE HOTEL",
      "!CONVENIENCE STORE!SCHOOL!DEPARTMENT STORE!FACTORY!IZAKAYA LANTERN!xvCASTLE!EUROPEAN CASTLE",
      "!inPENNANT!ilPENNANT!WAVINGint6$ilt6!ROSETTE!ilROSETTE!LABEL!BADMINTON RACQUETgSHUTTLECOCK",
      "!BOWgh!AMPHORA!EMOJInpFITZPATRICK TYPE-1-2&TYPE-3&TYPE-4&TYPE-5&TYPE-6!RAT!MOUSE!OX",
      "!s9BUFFALO!COW!TIGER!LEOPARD!RABBIT!CAT!xg!CROCODILE!WHALE!SNAIL!SNAKE!v5!RAM!GOAT!SHEEP",
      "!MONKEY!ROOSTER!CHICKEN!DOG!PIG!BOAR!ELEPHANT!OCTOPUS!SPIRALo9!BUG!ANT!HONEYBEE!LADY BEETLE",
      "!FISH!TROPICAL FISH!BLOWFISH!TURTLE!HATCHING CHICK!BABY CHICK!FRONT-FACING BABY CHICK!BIRD",
      "!PENGUIN!KOALA!POODLE!DROMEDARY CAMEL!BACTRIAN CAMEL!DOLPHIN!MOUSEjc!COWjc!TIGERjc!RABBITjc",
      "!CATjc!xgjc!SPOUTING WHALE!v5jc!MONKEYjc!DOGjc!PIGjc!FROGjc!HAMSTERjc!WOLFjc!BEARjc!PANDAjc",
      "!PIG NOSE!PAW PRINTS!CHIPMUNK!py!EYE!EAR!NOSE!px!TONGUE!inUPktw2jm$i8ktw2jm$icktw2jm",
      "$iaktw2jm!FISTEDnmf!WAVINGnmf!OKnmf!THUMBS UPf$i8f!CLAPPINGv6f!j6v6f!CROWN!WOMANS HAT",
      "!EYEGLASSES!NECKTIE!T-SHIRT!JEANS!DRESS!KIMONO!BIKINI!WOMANS CLOTHES!PURSE!HANDBAG!POUCH",
      "!MANS SHOE!ATHLETIC SHOE!HIGH-HEELED SHOE!WOMANS SANDAL$BOOTS!FOOTPRINTS!BUST IN SILHOUETTE",
      "!BUSTS IN SILHOUETTE!BOY!GIRL!p0!WOMAN!FAMILY!p0gWOMANyxv6!idMENyxv6$WOMENyxv6",
      "!POLICE OFFICER!WOMANaBUNNY EARS!BRIDEaVEIL!rgaBLOND HAIR!p0aGUA PI MAO%TURBAN!OLDERp0$WOMAN",
      "!BABY!CONSTRUCTION WORKER!PRINCESS!xvOGRE$GOBLIN!GHOST!BABY ANGEL!EXTRATERRESTRIAL ALIEN",
      "!ALIEN MONSTER!IMP!SKULL!INFORMATION DESKrg!GUARDSMAN!DANCER!LIPSTICK!NAIL POLISH!jcMASSAGE",
      "!HAIRCUT!BARBER POLE!SYRINGE!PILL!KISSij!LOVEb!jq!GEM STONE!KISS!BOUQUET!COUPLEan1!WEDDING",
      "!BEATINGn1!BROKENn1!idq3!SPARKLINGn1!GROWINGn1!n1ah!BLUEn1!GREENn1!YELLOWn1!PURPLEn1",
      "!n1aRIBBON!REVOLVINGq3!n1DECORATION!mjSHAPEaAiiqe!ELECTRICjlBULB!ANGERir!BOMB!SLEEPINGir",
      "!COLLISIONir!SPLASHING SWEATir!DROPLET!mgir!PILE OF POO!FLEXED BICEPS!DIZZYir!SPEECH BALLOON",
      "!THOUGHT BALLOON!inFLOWER!i7POINTSir!MONEY BAG!CURRENCY EXCHANGE!ivx3f!CREDIT CARD",
      "!BANKNOTEaYENf%x3f%EUROf%POUNDf!MONEYaWINGS!CHARTajwTRENDgYENf!SEAT!PERSONAL COMPUTER",
      "!BRIEFCASE!MINIDISC!FLOPPY DISK!OPTICAL DISC!DVD!FILE FOLDER!j6FILE FOLDER!PAGEaps$FACING UP",
      "!CALENDAR!TEAR-OFF CALENDAR!CARDjm!CHARTajwTREND%jrTREND!i2CHART!CLIPBOARD!PUSHPIN!tvPUSHPIN",
      "!PAPERCLIP!o3RULER!pkRULER!BOOKMARK TABS!LEDGER!NOTEBOOK$aDECORATIVE COVER!m3BOOK!j6BOOK",
      "!GREEN BOOK!BLUE BOOK!ORANGE BOOK!BOOKS!NAME BADGE!SCROLL!MEMO!tiRECEIVER!PAGER!FAX MACHINE",
      "!SATELLITE ANTENNA!PUBLIC ADDRESS LOUDSPEAKER!CHEERING MEGAPHONE!OUTBOX TRAY!INBOX TRAY",
      "!PACKAGE!E-MAILir!INCOMINGvl!vlajrhib!m3MAILBOXaLOWEREDt6&omt6!j6MAILBOXaomt6&LOWEREDt6",
      "!POSTBOX!POSTALm5!NEWSPAPER!MOBILE PHONE%aiuhATic!VIBRATION MODE!MOBILE PHONE OFF",
      "!NO MOBILE PHONES!ANTENNAaBARS!CAMERA$aFLASH!VIDEO CAMERA!TELEVISION!RADIO!VIDEOCASSETTE",
      "!FILM PROJECTOR!PORTABLE STEREO!PRAYER BEADS!TWISTEDiurf!ssiugi4j6jdrf:algigpf$jrgjwj6jdrf",
      "!qjjrgjwj6jdrf!jvBRIGHTNESSir!kgBRIGHTNESSir!SPEAKERazriq!SPEAKER$aigq6pt%ikq6WAVES!BATTERY",
      "!ELECTRIC PLUG!p1MAGNIFYING GLASS!o0MAGNIFYING GLASS!LOCKaINK PEN!m3LOCKaKEY!KEY!LOCK!j6LOCK",
      "!BELL$azriq!BOOKMARK!LINKir!RADIO BUTTON!t8ai4hib!ntai4hib!ONaokijaiciahib!SOONaiuhib",
      "!mdajwhib!NOigv4vkir!KEYCAPka!INPUTirmtloeLETTERS*cLETTERS&NUMBERS&SYMBOLS&loLETTERS!FIRE",
      "!ELECTRIC TORCH!WRENCH!HAMMER!NUTgBOLT!HOCHO!PISTOL!MICROSCOPE!TELESCOPE!CRYSTALt7",
      "!iym0k9aiwii!xvirmtBEGINNER!TRIDENT EMBLEM!iljbBUTTON!injbBUTTON!kmREDjd$BLUEjd$ORANGEmj",
      "$BLUEmj!cORANGEmj$BLUEmj!sbREDjs!tfREDjs!sbcREDjs!tfcREDjs!jtiaswinjd!j3iaswinjd!lgl0POMMEE",
      "!l0POMMEEaHALF-CIRCLEie$POMMEE!voiczcaikje$iazcaikje!irmtMARKS CHAPTER!inlol0!ivlol0",
      "!CELTICl0!OMir!DOVE OF PEACE!KAABA!MOSQUE!SYNAGOGUE!MENORAHai9BRANCHES!BOWL OF HYGIEIA",
      "!CLOCKjcigtt%idtt%iktt%iott%istt%iytt%i5tt%iztt%i9tt%katt%tqtt%sitt%ONE-THIRTY%TWO-THIRTY",
      "%THREE-THIRTY%FOUR-THIRTY%FIVE-THIRTY%SIX-THIRTY%SEVEN-THIRTY%EIGHT-THIRTY%NINE-THIRTY",
      "%TEN-THIRTY%ELEVEN-THIRTY%TWELVE-THIRTY!iaSPEAKER%aigq6pt&ikq6WAVES!BULLHORN$aq6WAVES",
      "!RINGING BELL!BOOK!CANDLE!MANTELPIECE CLOCK!ilSKULLgCROSSBONES!NO PIRACY!HOLE",
      "!p0IN BUSINESS SUIT LEVITATING!SLEUTH OR SPY!DARK SUNGLASSES!SPIDER$WEB!JOYSTICK!p0DANCING",
      "!icnmtiRECEIVER!tiRECEIVERaPAGE!ianmtiRECEIVER!inTOUCHTONEti!ilTOUCHTONEti!tiONmdOF MODEM",
      "!CLAMSHELL MOBILE PHONE!t8OFvl!STAMPEDvl!vlaLIGHTNING!FLYINGvl!PENjgSTAMPEDvl",
      "!LINKED PAPERCLIPS!ilPUSHPIN!jticPENCIL%BALLPOINT PEN%FOUNTAIN PEN%PAINTBRUSH%CRAYON",
      "!icWRITINGnm!j7OKnmf!omnmao7SPLAYED!kdomnmao7SPLAYED$THUMBS UPf%i8f$VICTORYnm$nmaiwxjwo",
      "!omnmaPARTq0iwgjqo7!ini8kticnmjm!vjinicktjm%iaktjm$ilicktjm%iaktjm!ilicktw2jm$iaktw2jm",
      "!vjinUPktjm%i8ktjm$ilUPktjm%i8ktjm!ilUPktw2jm$i8ktw2jm$n1!DESKTOP COMPUTER!KEYBOARDgMOUSE",
      "!ikNETWORKED COMPUTERS!PRINTER!POCKET CALCULATOR!ilHARDo9FLOPPY DISK!inHARDo9FLOPPY DISK",
      "!soo9FLOPPY DISK!TAPE CARTRIDGE!WIRED KEYBOARD!igBUTTON MOUSE!idBUTTON MOUSE!ikBUTTON MOUSE",
      "!TRACKBALL!ljPERSONAL COMPUTER!HARD DISK!SCREEN!PRINTER ICON!FAX ICON!OPTICAL DISC ICON",
      "!DOCUMENTaTEXT&gPICTURE%PICTURE!FRAMEaPICTURE%TILES%AN X!ilFOLDER!FOLDER!j6FOLDER",
      "!CARDjmDIVIDERS$FILEoi!FILE CABINET!EMPTYp3%PAGE%PAD!p3$PAGE$PAD!EMPTY DOCUMENT$PAGE$PAGES",
      "!DOCUMENT!PAGE!PAGES!WASTEBASKET!SPIRALp3PAD$CALENDAR PAD!DESKTOP WINDOW!MINIMIZE!MAXIMIZE",
      "!OVERLAP!ssiagiczcrf!zrX!INCREASE FONT SIZEir!DECREASE FONT SIZEir!COMPRESSION!ljKEY",
      "!ROLLED-UP NEWSPAPER!PAGEalgTEXT!STOCK CHART!DAGGER KNIFE!LIPS!SPEAKINGqiIN SILHOUETTE",
      "!ikRAYSib%ie%ic%ia!icSPEECHvx!iaSPEECHvx!idSPEECH BUBBLES!ikSPEECH BUBBLES!icTHOUGHTvx",
      "!iaTHOUGHTvx!icANGERvx!iaANGERvx!MOODvx!LIGHTNING MOODvx$MOOD!BALLOToiaBALLOT$o8X$oiao8X",
      "$n2o8X$oian2o8X!jltyij!BALLOToian2ty!WORLD MAP!MOUNT FUJI!TOKYO TOWER!STATUE OF LIBERTY",
      "!SILHOUETTE OF JAPAN!MOYAI!GRINNINGjc%aq1py!jcaTEARS OF JOY!q1jcaj6px+gq1py,COLD SWEAT",
      ",TIGHTLY-CLOSEDpy&HALO&HORNS!WINKINGjc!q1jcaq1py!jcSAVOURING DELICIOUS FOOD!RELIEVEDjc",
      "!q1jcaHEART-SHAPEDpy&SUNGLASSES!SMIRKINGjc!pnjc!EXPRESSIONLESSjc!UNAMUSEDjc!jcaCOLD SWEAT",
      "!PENSIVEjc!CONFUSEDjc!CONFOUNDEDjc!KISSINGjc!jcTHROWING A KISS!KISSINGjcaq1py&m3py",
      "!jcaSTUCK-OUT TONGUE*gWINKING EYE+TIGHTLY-CLOSEDpy!DISAPPOINTEDjc!WORRIEDjc!ANGRYjc",
      "!POUTINGjc!CRYINGjc!PERSEVERINGjc!jcaLOOK OF TRIUMPH!DISAPPOINTED BUT RELIEVEDjc",
      "!FROWNINGjcaj6px!ANGUISHEDjc!FEARFULjc!WEARYjc!SLEEPYjc!TIREDjc!GRIMACINGjc!LOUDLY CRYINGjc",
      "!jcaj6px!HUSHEDjc!jcaj6pxgCOLD SWEAT$SCREAMING IN FEAR!ASTONISHEDjc!FLUSHEDjc!SLEEPINGjc",
      "!DIZZYjc!jcWITHOUTpx$aMEDICAL MASK!GRINNING CATjcaq1py!CATjcaTEARS OF JOY!q1CATjcaj6px",
      "*HEART-SHAPEDpy!CATjcaWRY SMILE!KISSING CATjcam3py!POUTING CATjc!CRYING CATjc!WEARY CATjc",
      "!SLIGHTLY FROWNINGjc$q1jc!UPSIDE-DOWNjc!jcaROLLINGpy%NO GOOD GESTURE%OK GESTURE",
      "!rgBOWING DEEPLY!SEE-NO-EVIL MONKEY!HEAR-NO-EVIL MONKEY!SPEAK-NO-EVIL MONKEY",
      "!HAPPYrgRAISINGignm!rgRAISING BOTHv6IN CELEBRATION$FROWNING$aPOUTINGjc%FOLDEDv6!luliktpu",
      "!l9liktpu!lukzktpu!l9kzktpu!j7luliktpu$l9liktpu$lukzktpu$l9kzktpu!luliktVINEpu!l9liktVINEpu",
      "!lukzktVINEpu!l9kzktVINEpu!ivluliktVINEpu$l9liktVINEpu$lukzktVINEpu$l9kzktVINEpu!luliktBUD",
      "!l9liktBUD!lukzktBUD!l9kzktBUD!ivluliktBUD$l9liktBUD$lukzktBUD$l9kzktBUD!HOLLOW QUILTjblk",
      "*INiljb!SOLID QUILTjblk*INiljb!i4ROCKET!jwROCKET!iuROCKET!jrROCKET!o8m8ETlk!ivo8m8ETlk",
      "!m8j6ETlk!ivm8j6ETlk$wblk!SWASHwblk!pcivihj7k2noijlk&k2noijlk%jvihk2noijlk!ivy9lk!pcy9lk",
      "!ivpcy9lk!obivo5%pwo5!CHECKER BOARD!pwCHECKER BOARD!ROCKET!HELICOPTER!STEAM LOCOMOTIVE",
      "!RAILWAY CAR!HIGH-SPEED TRAIN%ashNOSE!TRAIN!METRO!jlRAIL!STATION!TRAM$CAR!BUS!ONCOMING BUS",
      "!TROLLEYBUS!BUSki!MINIBUS!AMBULANCE!FIRE ENGINE!POLICE CAR!ONCOMING POLICE CAR!TAXI",
      "!ONCOMING TAXI!AUTOMOBILE!ONCOMING AUTOMOBILE!RECREATIONAL VEHICLE!DELIVERY TRUCK",
      "!ARTICULATED LORRY!TRACTOR!MONORAIL!wxRAILWAY!SUSPENSION RAILWAY!wxCABLEWAY!AERIAL TRAMWAY",
      "!SHIP!ROWBOAT!SPEEDBOAT!jnTRAFFICjl!ixTRAFFICjl!CONSTRUCTIONf!POLICE CARS REVOLVINGjl",
      "!pkt6ON POST!DOOR!NO ENTRYf!SMOKINGir!NO SMOKINGir!PUT LITTER IN ITS PLACEir!DOk5LITTERir",
      "!POTABLEs9ir!NON-POTABLEs9ir!BICYCLE!NO BICYCLES!BICYCLIST!wxBICYCLIST!PEDESTRIAN",
      "!NO PEDESTRIANS!CHILDRENnh!MENSir!WOMENSir!RESTROOM!BABYir!TOILET!s9CLOSET!SHOWER!BATH",
      "!BATHTUB!PASSPORT CONTROL!CUSTOMS!BAGGAGE CLAIM!icLUGGAGE!jsautyu!PROHIBITEDf",
      "!lgINFORMATION SOURCE!BOYSir!GIRLSir!COUCHgLAMP!SLEEPING ACCOMMODATION!SHOPPING BAGS",
      "!BELLHOP BELL!BED!PLACE OF WORSHIP!OCTAGONALf!SHOPPING TROLLEY!STUPA!PAGODA!HINDU TEMPLE!HUT",
      "!ELEVATOR!!!!!!PLAYGROUND SLIDE!WHEEL!jqBUOY!HAMMERgWRENCH!SHIELD!OIL DRUM!MOTORWAY",
      "!RAILWAY TRACK!MOTOR BOAT!sbMILITARYxw$xw$cxw!cxw!NORTHEAST-POINTINGxw!xwDEPARTURE$ARRIVING!",
      "!!!SATELLITE!ONCOMING FIRE ENGINE!DIESEL LOCOMOTIVE!PASSENGER SHIP!SCOOTER!MOTOR SCOOTER",
      "!CANOE!SLED!FLYING SAUCER!SKATEBOARD!AUTO RICKSHAW!PICKUP TRUCK!ROLLER SKATE!!!",
      "!ALCHEMICALirmtQUINTESSENCE&AIR&FIRE&sm&s9&AQUAFORTIS&AQUA REGIA*REGIA-2*VITAE*VITAE-2",
      "&VINEGAR&VINEGAR-2&VINEGAR-3&SULFUR&PHILOSOPHERS SULFUR&ilSULFUR&MERCURYzh*SUBLIMATE-2",
      "*SUBLIMATE-3&CINNABAR&SALT&NITRE&VITRIOL&VITRIOL-2&ROCK SALT*SALT-2&GOLD&SILVER&IRON ORE",
      "*ORE-2&CROCUS OF IRON&REGULUS OF IRON&COPPER ORE&IRON-COPPER ORE&zhOF COPPER",
      "&CROCUS OF COPPER+COPPER-2&COPPER ANTIMONIATE&SALT OF COPPER ANTIMONIATE&zhOF SALT OF COPPER",
      "&VERDIGRIS&TIN ORE&LEAD ORE&yqORE&zhOFyq&SALT OFyq&zhOF SALT OFyq&VINEGAR OFyq&REGULUS OFyq",
      "+ANTIMONY-2&REGULUS&REGULUS-2&REGULUS-3&REGULUS-4&ALKALI&ALKALI-2&MARCASITE&SAL-AMMONIAC",
      "&ARSENIC&REALGAR&REALGAR-2&AURIPIGMENT&BISMUTH ORE&TARTAR&TARTAR-2&QUICK LIME&BORAX&BORAX-2",
      "&BORAX-3&ALUM&OIL&SPIRIT&TINCTURE&GUM&WAX&POWDER&CALX&TUTTY&CAPUT MORTUUM&SCEPTER OF JOVE",
      "&CADUCEUS&TRIDENT&STARRED TRIDENT&LODESTONE&SOAP&URINE&v5DUNG&ASHES&POT ASHES&BRICK",
      "&POWDERED BRICK&AMALGAM&STRATUM SUPER STRATUM+STRATUM-2&SUBLIMATION&PRECIPITATE&DISTILL",
      "&DISSOLVE&DISSOLVE-2&PURIFY&PUTREFACTION&CRUCIBLE&CRUCIBLE-2&CRUCIBLE-3&CRUCIBLE-4",
      "&CRUCIBLE-5&ALEMBIC&BATH OF MARY+VAPOURS&RETORT&HOUR&NIGHT&DAY-NIGHT&MONTH&i6DRAM*OUNCE!!!!!",
      "!!!!!!!!ilp1ISOSCELESiajs$sbISOSCELESiajs$o0ISOSCELESiajs$tfISOSCELESiajs$SLIGHTLYcjd",
      "!jyn2injd!n2injd!ivinjd!obivinjd!yfivinjd!injdxnilcjd!tvTARGET!ilTINYjb$SLIGHTLYcjb!jlinjb",
      "!jyinjb!n2injb!ivinjb!obivinjb!yfivinjb!injbxnilobcjb*jyjb!jbTARGET!ilTINYmj$obcmj$jycmj",
      "!inmjxnilobcmj*jymj!mjTARGET!ilTINYs0$obcs0$jycs0!ins0xnilcs0!THINowl0!jlowl0!jyowl0!n2owl0",
      "!obn2owl0$ivowl0!yfivowl0!THINuh!jluh!jyuh!n2uh!ivuh!obivuh!yfivuh!jlisqply!jyisqply",
      "!n2isqply!ivisqply!obivisqply!yfivisqply!jliyqply!jyiyqply!n2iyqply!iviyqply!obiviyqply",
      "!yfiviyqply!jlizqply!jyizqply!n2izqply!ivizqply!obivizqply!jlikm0ilk9!jyikm0ilk9!ikm0ilk9",
      "!jyikm0vmk9!jliom0ilk9!jyiom0ilk9!iom0ilk9!jyiom0vmk9!pwjliom0vmk9!jlism0ilk9!ivism0ilk9",
      "!jyiym0ilk9!iviym0ilk9!iym0vmk9!jyizm0ilk9!ivizm0ilk9!obivizm0ilk9!ivizm0vmk9!jlsim0ilk9",
      "!ivsim0ilk9&vmk9!lgjs!rulgjs!lgjb!rulgjb!!!!!!!!kmORANGEjd$YELLOWjd$GREENjd$PURPLEjd$BROWNjd",
      "$REDjb$BLUEjb$ORANGEjb$YELLOWjb$GREENjb$PURPLEjb$BROWNjb!!!!!ivm2f!!!!!!!!!!!!!!!!i4hacjskk",
      "!jwhacjskk!iuhacjskk!jrhacjskk!i4hajyjskk!jwhajyjskk!iuhajyjskk!jrhajyjskk!i4hakmjskk",
      "!jwhakmjskk!iuhakmjskk!jrhakmjskk!!!!!i4haco1kk!jwhaco1kk!iuhaco1kk!jrhaco1kk!i4hao1kk",
      "!jwhao1kk!iuhao1kk!jrhao1kk!ivi4hao1kk$jwhao1kk$iuhao1kk$jrhao1kk$i4hakmo1kk$jwhakmo1kk",
      "$iuhakmo1kk$jrhakmo1kk!i4klhaNARROWpr!jwklhaNARROWpr!iuklhaNARROWpr!jrklhaNARROWpr",
      "!i4klhajypr!jwklhajypr!iuklhajypr!jrklhajypr!i4klhan2pr!jwklhan2pr!iuklhan2pr!jrklhan2pr",
      "!i4klhaivpr!jwklhaivpr!iuklhaivpr!jrklhaivpr!i4klhaobivpr!jwklhaobivpr!iuklhaobivpr",
      "!jrklhaobivpr!i4z7h!jwz7h!iuz7h!jrz7h!i4m1h!jwm1h!ium1h!jrm1h!i4wah!jwwah!iuwah!jrwah",
      "!i4ivwah!jwivwah!iuivwah!jrivwah!i4ivh!jwivh!iuivh!jrivh!!!!!!!!!i4pch!jwpch!iupch!jrpch",
      "!lulipch$kzpch!l9kzpch$lipch!iciapch!UPi8pch!!!!!!!WIDE-HEADEDi4jljuh$jwjljuh$iujljuh",
      "$jrjljuh$lulijljuh%kzjljuh$l9kzjljuh%lijljuh$i4juh$jwjuh$iujuh$jrjuh$lulijuh%kzjuh$l9kzjuh",
      "%lijuh$i4jyjuh$jwjyjuh$iujyjuh$jrjyjuh$lulijyjuh%kzjyjuh$l9kzjyjuh%lijyjuh$i4ivjuh$jwivjuh",
      "$iuivjuh$jrivjuh$luliivjuh%kzivjuh$l9kzivjuh%liivjuh$i4obivjuh$jwobivjuh$iuobivjuh$jrobivjuh",
      "$luliobivjuh%kzobivjuh$l9kzobivjuh%liobivjuh!!!!!!!!!i4jskk!jwjskk!iujskk!jrjskk",
      "!i4inhWITHINjskk!jwinhWITHINjskk!iuinhWITHINjskk!jrinhWITHINjskk!i4havole!jwhavole!iuhavole",
      "!jrhavole!ivhprWIDTHig*idvv*igi6+s8!i4BOTTOM-SHADEDinh!iundSHADEDinh!i4mdSHADEDinh",
      "!iumdSHADEDinh!i4LEFT-SHADEDinh!iuRIGHT-SHADEDinh!i4RIGHT-SHADEDinh!iuLEFT-SHADEDinh",
      "!i4BACK-TILTEDswinh!iuBACK-TILTEDswinh!i4FRONT-TILTEDswinh!iuFRONT-TILTEDswinh!inhprWIDTHig",
      "*idvv!!!hktjwTHENluli%iuTHEN CURVINGl9li"]⟩,
    ⟨0x1F900, [
      "!lgl0FORMEEaioje*idje%FORMEE!ici6jdaioje*ikje*idje*ii%jd!DOWNWARD FACINGip%voip%ipaii",
      "%voipaii!PINCHEDo7!inn1!BROWNn1!PINCHINGnm!ZIPPER-MOUTHjc!MONEY-MOUTHjc!jcaTHERMOMETER",
      "!NERDjc!THINKINGjc!jcaHEAD-BANDAGE!ROBOTjc!HUGGINGjc!fOFmvHORNS!CALL MEnm!omt8OFnm!zvFIST",
      "!zqFIST!HANDSHAKE!nmajmgiwo7s1!I LOVE YOUnmf!jcaCOWBOY HAT!CLOWNjc!NAUSEATEDjc",
      "!ROLLING ONmvvbLAUGHING!DROOLINGjc!LYINGjc!jcPALM!SNEEZINGjc!jcaigEYEBROWom!GRINNINGjcak9py",
      "&igkmgigcEYE!jcaxjCOVERINGm3LIPS!SERIOUSjcaSYMBOLS COVERINGpx!q1jcaq1pygnmCOVERINGpx",
      "!jcaj6pxVOMITING!SHOCKEDjcaEXPLODINGqi!PREGNANT WOMAN!BREAST-FEEDING!PALMS UP TOGETHER",
      "!SELFIE!PRINCE!p0IN TUXEDO!MOTHER CHRISTMAS!SHRUG!rgDOING CARTWHEEL!JUGGLING!FENCER",
      "!MODERN PENTATHLON!WRESTLERS!s9POLO!HANDBALL!DIVING MASK!WILTED FLOWER!DRUMaDRUMSTICKS",
      "!CLINKING GLASSES!TUMBLER GLASS!SPOON!GOAL NET!RIFLE!v2PLACE MEDAL!SECOND PLACE MEDAL",
      "!s8PLACE MEDAL!BOXING GLOVE!MARTIAL ARTS UNIFORM!CURLING STONE!LACROSSE STICKgt7!SOFTBALL",
      "!FLYING DISC!CROISSANT!AVOCADO!CUCUMBER!BACON!POTATO!CARROT!BAGUETTE BREAD!GREEN SALAD",
      "!SHALLOW PAN OF FOOD!STUFFED FLATBREAD!EGG!GLASS OF MILK!PEANUTS!KIWIFRUIT!PANCAKES!DUMPLING",
      "!FORTUNE COOKIE!TAKEOUToi!CHOPSTICKS!BOWLaSPOON!CUPaSTRAW!COCONUT!BROCCOLI!PIE!PRETZEL",
      "!CUT OF MEAT!SANDWICH!CANNED FOOD!LEAFY GREEN!MANGO!oqCAKE!BAGEL!q1jcaq1pygikq3!YAWNINGjc",
      "!q1jcaTEAR!jcaPARTYm5gPARTY HAT%UNEVENpygWAVYpx!OVERHEATEDjc!FREEZINGjc!NINJA!DISGUISEDjc",
      "!jcyxt8TEARS$aPLEADINGpy!SARI!LAB COAT!GOGGLES!HIKING BOOT!FLAT SHOE!CRAB!LIONjc!SCORPION",
      "!TURKEY!UNICORNjc!EAGLE!DUCK!BAT!SHARK!OWL!FOXjc!BUTTERFLY!DEER!GORILLA!LIZARD!RHINOCEROS",
      "!SHRIMP!SQUID!GIRAFFEjc!ZEBRAjc!HEDGEHOG!SAUROPOD!T-REX!CRICKET!KANGAROO!LLAMA!PEACOCK",
      "!HIPPOPOTAMUS!PARROT!RACCOON!LOBSTER!MOSQUITO!MICROBE!BADGER!SWAN!MAMMOTH!DODO!SLOTH!OTTER",
      "!ORANGUTAN!SKUNK!FLAMINGO!OYSTER!BEAVER!BISON!SEAL!GUIDE DOG!PROBING CANE",
      "!EMOJI COMPONENT RED HAIR%ooHAIR%BALD%inHAIR!BONE!LEG!FOOT!TOOTH!SUPERHERO!SUPERVILLAIN",
      "!SAFETY VEST!EARaHEARING AID!MOTORIZED WHEELCHAIR!MANUAL WHEELCHAIR!MECHANICAL ARM$LEG",
      "!CHEESE WEDGE!CUPCAKE!SALT SHAKER!BEVERAGEoi!GARLIC!ONION!FALAFEL!WAFFLE!BUTTER!MATE DRINK",
      "!ICE CUBE!vxTEA!TROLL!STANDINGrg!KNEELINGrg!DEAFrg!jcaMONOCLE!ADULT!CHILD!OLDER ADULT",
      "!BEARDEDrg!rgaHEADSCARF$IN STEAMY ROOM$CLIMBING$IN LOTUS POSITION!MAGE!FAIRY!VAMPIRE",
      "!MERPERSON!ELF!GENIE!ZOMBIE!BRAIN!ORANGEn1!BILLED CAP!SCARF!GLOVES!COAT!SOCKS!RED GIFTvl",
      "!FIRECRACKER!JIGSAW PUZZLE PIECE!TEST TUBE!PETRIph!DNAihHELIX!COMPASS!ABACUS",
      "!FIRE EXTINGUISHER!TOOLBOX!BRICK!MAGNET!LUGGAGE!LOTION BOTTLE!SPOOL OF THREAD!t7OF YARN",
      "!SAFETY PIN!TEDDY BEAR!BROOM!BASKET!ROLL OF PAPER!i2OF SOAP!SPONGE!RECEIPT!NAZAR AMULET",
      "!pnnfqv%rk%t4%tr%oa%t5!innfoakyFORTY-FIVEll!ilnfoakyFORTY-FIVEll!pnnfoakyFORTY-FIVEll",
      "!innfqvkymrll%rkkymrll%t4kymrll%trkymrll%oakymrll%t5kymrll!ilnfqvkymrll%rkkymrll%t4kymrll",
      "%trkymrll%oakymrll%t5kymrll!pnnfqvkymrll%rkkymrll%t4kymrll%trkymrll%oakymrll%t5kymrll",
      "!innfoakyigi7THIRTY-FIVEll!ilnfoakyigi7THIRTY-FIVEll!pnnfoakyigi7THIRTY-FIVEll!innfj7qv&rk",
      "&t4&tr&oa&t5!ilnfj7qv&rk&t4&tr&oa&t5!pnnfj7qv&rk&t4&tr&oa&t5!innfoakyidi7z4ll",
      "!ilnfoakyidi7z4ll!pnnfoakyidi7z4ll!innfqvkyidi7m4ll%rkkyidi7m4ll%t4kyidi7m4ll%trkyidi7m4ll",
      "%oakyidi7m4ll%t5kyidi7m4ll!ilnfqvkyidi7m4ll%rkkyidi7m4ll%t4kyidi7m4ll%trkyidi7m4ll",
      "%oakyidi7m4ll%t5kyidi7m4ll!pnnfqvkyidi7m4ll%rkkyidi7m4ll%t4kyidi7m4ll%trkyidi7m4ll",
      "%oakyidi7m4ll%t5kyidi7m4ll!innfoakyiki7ugll!ilnfoakyiki7ugll!pnnfoakyiki7ugll!innfyb!ilnfyb",
      "!pnnfyb!innfybkymrll!ilnfybkymrll!pnnfybkymrll!innfKNIGHT-QUEEN%KNIGHT-ROOK%KNIGHT-BISHOP",
      "!ilnfKNIGHT-QUEEN%KNIGHT-ROOK%KNIGHT-BISHOP!!!!!!!!!!!!!XIANGQI RED GENERAL%MANDARIN",
      "%ELEPHANT%v5%CHARIOT%CANNON%SOLDIER$ilGENERAL%MANDARIN%ELEPHANT%v5%CHARIOT%CANNON%SOLDIER!!",
      "!BALLET SHOES!ONE-PIECE SWIMSUIT!BRIEFS!SHORTS!THONG SANDAL!!!!DROP OF BLOOD",
      "!ADHESIVE BANDAGE!STETHOSCOPE!X-RAY!CRUTCH!!!!YO-YO!KITE!PARACHUTE!BOOMERANG!MAGIC WAND",
      "!PINATA!NESTING DOLLS!!!!!!!!!!RINGED PLANET!CHAIR!RAZOR!AXE!DIYA LAMP!BANJO!MILITARY HELMET",
      "!ACCORDION!j9DRUM!COIN!CARPENTRY SAW!SCREWDRIVER!LADDER!ip!MIRROR!WINDOW!PLUNGER",
      "!SEWING NEEDLE!KNOT!BUCKET!MOUSE TRAP!TOOTHBRUSH!HEADSTONE!PLACARD!ROCK!MIRRORt7",
      "!IDENTIFICATION CARD!jvBATTERY!HAMSA!!!!FLY!WORM!BEETLE!COCKROACH!POTTED PLANT!WOOD!FEATHER",
      "!LOTUS!CORAL!EMPTY NEST!NESTaEGGS!!!!!!ANATOMICALn1!LUNGS!PEOPLE HUGGING!PREGNANTp0$rg",
      "!rgaCROWN!!!!!!!!!!!BLUEBERRIES!BELL PEPPER!OLIVE!FLATBREAD!TAMALE!FONDUE!TEAPOT",
      "!POURING LIQUID!BEANS!JAR!!!!!!!MELTINGjc!SALUTINGjc!jcaj6pygnmjgpx%PEEKING EYE%l1px!mqkqjc",
      "!BITING LIP!BUBBLES!!!!!!!!!nmajmxjgj4s1!iunm!i4nm!PALMi8nm$UPnm!jmktATmvVIEWER!n1v6!!!!!!!!",
      "!!k8SEXTANT-1$SEXTANT-2$SEXTANT-12$SEXTANT-3$SEXTANT-13$SEXTANT-23$SEXTANT-123$SEXTANT-4",
      "$SEXTANT-14$SEXTANT-24$SEXTANT-124$SEXTANT-34$SEXTANT-134$SEXTANT-234$SEXTANT-1234$SEXTANT-5",
      "$SEXTANT-15$SEXTANT-25$SEXTANT-125$SEXTANT-35$SEXTANT-235$SEXTANT-1235$SEXTANT-45",
      "$SEXTANT-145$SEXTANT-245$SEXTANT-1245$SEXTANT-345$SEXTANT-1345$SEXTANT-2345$SEXTANT-12345",
      "$SEXTANT-6$SEXTANT-16$SEXTANT-26$SEXTANT-126$SEXTANT-36$SEXTANT-136$SEXTANT-236$SEXTANT-1236",
      "$SEXTANT-46$SEXTANT-146$SEXTANT-1246$SEXTANT-346$SEXTANT-1346$SEXTANT-2346$SEXTANT-12346",
      "$SEXTANT-56$SEXTANT-156$SEXTANT-256$SEXTANT-1256$SEXTANT-356$SEXTANT-1356$SEXTANT-2356",
      "$SEXTANT-12356$SEXTANT-456$SEXTANT-1456$SEXTANT-2456$SEXTANT-12456$SEXTANT-3456",
      "$SEXTANT-13456$SEXTANT-23456!jtick8l1jtiwicTOjtlb<ia*j3iwicTOjtlb<ia+icTOjtlb",
      "$iak8l1j3iwicTOj3lb<ia*jtiwicTOj3lb<ia+icTOj3lb+iwicTOj3iwia+lbTOjtiwia+icTOjtiwia",
      "+lbTOj3iwia+icTOj3iwia+lbTOj3ia$ick8l1j3lbTOj3iwia+icTOj3iwia+lbTOjtiwia+icTOjtiwia+lbTOjtia",
      "+iwicTOjtiwia!j3iak8l1jtiwicTOjtlb<ia*j3iwicTOjtlb<ia+icTOjtlb$ick8l1j3iwicTOj3lb<ia",
      "*jtiwicTOj3lb<ia+icTOj3lb+iwicTOj3iwia+lbTOjtiwia+icTOjtiwia+lbTOj3iwia+icTOj3iwia+lbTOj3ia",
      "$iak8l1j3lbTOj3iwia+icTOj3iwia+lbTOjtiwia+icTOjtiwia+lbTOjtia+iwicTOjtiwia$giagjtpkikrtk8",
      "!icgjtgiapkikrtk8!j3gicgjtpkikrtk8!icgj3giapkikrtk8$pkigm9k8!j3pkigm9k8!iapkigm9k8",
      "!jtpkigm9k8!ixigodBLOCK-2&BLOCK-3&BLOCK-4&BLOCK-5&BLOCK-6&BLOCK-7!jnigodBLOCK-2&BLOCK-3",
      "&BLOCK-4&BLOCK-5&BLOCK-6&BLOCK-7!icgjtigodk8%j3igodk8!iagj3igodk8%jtigodk8!j3gjtigodk8",
      "!jnigodBLOCK-1358!j3igm9k8$ikrxk8$isrxk8$ikrtk8$i5rxk8!iaigm9k8$ikrxk8$isrxk8$ikrtk8$i5rxk8",
      "!ici6jyr4!iai6jyr4!j3i6jyr4!jti6jyr4!uyjyr4!j3i6k8gjti6uyjyr4%uyjyr4gjti6k8!",
      "!ici6uyjyr4giai6k8!CHECKER BOARDsq!uyCHECKER BOARDsq!ivjnsq!j3icTOjtiasq$iaTOjticsq",
      "$gjtpki6k8!icgiapki6k8!j3icpkjyr4$iapkjyr4!jtiapkjyr4$icpkjyr4!oiDRAWINGSjll1j3lbTOiwic;ia",
      "*iwicTOjtlb+iaTOjtlb*j3lbTOiwicTOjtlb;iaTOjtlb*iwicTOjtlbTOiwia:j3lbTOiwia",
      "*j3lbTOiwicgiwiaTOjtlb;iagiwicTOjtlb<TOjtlbTOiwic;icTOjtlbTOiwia*iwicTOj3lbTOiwiaTOjtlb",
      "+iaTOj3lbTOiwicTOjtlb*mj&jnaixiq!ARROWHEAD-SHAPED POINTER!uytyij!ici6RUNNINGp0!iai6RUNNINGp0",
      "!uyjrhaTIPi4!i4hgj3gjtigodk8!iuhgj3gjtigodk8!jrhgiaigodk8!jwhgiaigodk8!ici6FOLDER!iai6FOLDER",
      "!VOIDEDowl0!iaj6m1ii!rul1l0%iwiaTOjtlb%mj!inivuhautyu!ics8iniaktjm!iws8iniaktjm!ias8iniaktjm",
      "!rum1nxij!STICK FIGURE%aARMSom%LEANINGic&ia%aDRESS!insbCHEVRON"]⟩,
    ⟨0x1FBF0, ["!SEGMENTEDjpj1%ig%id%ik%io%is%iy%i5%iz%i9"]⟩, ⟨0xE0001, ["!LANGUAGE TAG"]⟩,
    ⟨0xE0020, [
      "!TAGpp$okij$noij$kxf$x3f$PERCENTf$wb$vf$icma$iama$ly$i3f$k2$zp$lqki$o5$jpj1%ig%id%ik%io%is",
      "%iy%i5%iz%i9$nj$th$k4f$m2f$k6f$nxij$zaAT$loebA*B*C*D*E*F*G*H*I*J*K*L*M*N*O*P*Q*R*S*T*U*V*W*X",
      "*Y*Z$icjbja$pwo5$iajbja$kbmn$jvkq$komn$locbA*B*C*D*E*F*G*H*I*J*K*L*M*N*O*P*Q*R*S*T*U*V*W*X*Y",
      "*Z$icooja$ixkq$iaooja$jo!CANCEL TAG"]⟩]

/-- Other names of characters. -/
def otherNames : List (String × Nat) :=
  [
    ("NULL", 0x0), ("NUL", 0x0), ("START OF HEADING", 0x1), ("SOH", 0x1), ("START OF TEXT", 0x2),
    ("STX", 0x2), ("END OF TEXT", 0x3), ("ETX", 0x3), ("END OF TRANSMISSION", 0x4), ("EOT", 0x4),
    ("ENQUIRY", 0x5), ("ENQ", 0x5), ("ACKNOWLEDGE", 0x6), ("ACK", 0x6), ("ALERT", 0x7),
    ("BEL", 0x7), ("BACKSPACE", 0x8), ("BS", 0x8), ("CHARACTER TABULATION", 0x9),
    ("HORIZONTAL TABULATION", 0x9), ("HT", 0x9), ("TAB", 0x9), ("LINE FEED", 0xA),
    ("NEW LINE", 0xA), ("END OF LINE", 0xA), ("EOL", 0xA), ("LF", 0xA), ("NL", 0xA),
    ("LINE TABULATION", 0xB), ("VERTICAL TABULATION", 0xB), ("VT", 0xB), ("FORM FEED", 0xC),
    ("FF", 0xC), ("CARRIAGE RETURN", 0xD), ("CR", 0xD), ("SHIFT OUT", 0xE),
    ("LOCKING-SHIFT ONE", 0xE), ("SO", 0xE), ("SHIFT IN", 0xF), ("LOCKING-SHIFT ZERO", 0xF),
    ("SI", 0xF), ("DATA LINK ESCAPE", 0x10), ("DLE", 0x10), ("DEVICE CONTROL ONE", 0x11),
    ("DC1", 0x11), ("DEVICE CONTROL TWO", 0x12), ("DC2", 0x12), ("DEVICE CONTROL THREE", 0x13),
    ("DC3", 0x13), ("DEVICE CONTROL FOUR", 0x14), ("DC4", 0x14), ("NEGATIVE ACKNOWLEDGE", 0x15),
    ("NAK", 0x15), ("SYNCHRONOUS IDLE", 0x16), ("SYN", 0x16), ("END OF TRANSMISSION BLOCK", 0x17),
    ("ETB", 0x17), ("CANCEL", 0x18), ("CAN", 0x18), ("END OF MEDIUM", 0x19), ("EOM", 0x19),
    ("SUBSTITUTE", 0x1A), ("SUB", 0x1A), ("ESCAPE", 0x1B), ("ESC", 0x1B),
    ("INFORMATION SEPARATOR FOUR", 0x1C), ("FILE SEPARATOR", 0x1C), ("FS", 0x1C),
    ("INFORMATION SEPARATOR THREE", 0x1D), ("GROUP SEPARATOR", 0x1D), ("GS", 0x1D),
    ("INFORMATION SEPARATOR TWO", 0x1E), ("RECORD SEPARATOR", 0x1E), ("RS", 0x1E),
    ("INFORMATION SEPARATOR ONE", 0x1F), ("UNIT SEPARATOR", 0x1F), ("US", 0x1F), ("SP", 0x20),
    ("DELETE", 0x7F), ("DEL", 0x7F), ("PADDING CHARACTER", 0x80), ("PAD", 0x80),
    ("HIGH OCTET PRESET", 0x81), ("HOP", 0x81), ("BREAK PERMITTED HERE", 0x82), ("BPH", 0x82),
    ("NO BREAK HERE", 0x83), ("NBH", 0x83), ("INDEX", 0x84), ("IND", 0x84), ("NEXT LINE", 0x85),
    ("NEL", 0x85), ("START OF SELECTED AREA", 0x86), ("SSA", 0x86), ("END OF SELECTED AREA", 0x87),
    ("ESA", 0x87), ("CHARACTER TABULATION SET", 0x88), ("HORIZONTAL TABULATION SET", 0x88),
    ("HTS", 0x88), ("CHARACTER TABULATION WITH JUSTIFICATION", 0x89),
    ("HORIZONTAL TABULATION WITH JUSTIFICATION", 0x89), ("HTJ", 0x89),
    ("LINE TABULATION SET", 0x8A), ("VERTICAL TABULATION SET", 0x8A), ("VTS", 0x8A),
    ("PARTIAL LINE FORWARD", 0x8B), ("PARTIAL LINE DOWN", 0x8B), ("PLD", 0x8B),
    ("PARTIAL LINE BACKWARD", 0x8C), ("PARTIAL LINE UP", 0x8C), ("PLU", 0x8C),
    ("REVERSE LINE FEED", 0x8D), ("REVERSE INDEX", 0x8D), ("RI", 0x8D), ("SINGLE SHIFT TWO", 0x8E),
    ("SINGLE-SHIFT-2", 0x8E), ("SS2", 0x8E), ("SINGLE SHIFT THREE", 0x8F),
    ("SINGLE-SHIFT-3", 0x8F), ("SS3", 0x8F), ("DEVICE CONTROL STRING", 0x90), ("DCS", 0x90),
    ("PRIVATE USE ONE", 0x91), ("PRIVATE USE-1", 0x91), ("PU1", 0x91), ("PRIVATE USE TWO", 0x92),
    ("PRIVATE USE-2", 0x92), ("PU2", 0x92), ("SET TRANSMIT STATE", 0x93), ("STS", 0x93),
    ("CANCEL CHARACTER", 0x94), ("CCH", 0x94), ("MESSAGE WAITING", 0x95), ("MW", 0x95),
    ("START OF GUARDED AREA", 0x96), ("START OF PROTECTED AREA", 0x96), ("SPA", 0x96),
    ("END OF GUARDED AREA", 0x97), ("END OF PROTECTED AREA", 0x97), ("EPA", 0x97),
    ("START OF STRING", 0x98), ("SOS", 0x98), ("SINGLE GRAPHIC CHARACTER INTRODUCER", 0x99),
    ("SGC", 0x99), ("SINGLE CHARACTER INTRODUCER", 0x9A), ("SCI", 0x9A),
    ("CONTROL SEQUENCE INTRODUCER", 0x9B), ("CSI", 0x9B), ("STRING TERMINATOR", 0x9C),
    ("ST", 0x9C), ("OPERATING SYSTEM COMMAND", 0x9D), ("OSC", 0x9D), ("PRIVACY MESSAGE", 0x9E),
    ("PM", 0x9E), ("APPLICATION PROGRAM COMMAND", 0x9F), ("APC", 0x9F), ("NBSP", 0xA0),
    ("SHY", 0xAD), ("LATIN CAPITAL LETTER GHA", 0x1A2), ("LATIN SMALL LETTER GHA", 0x1A3),
    ("CGJ", 0x34F), ("ALM", 0x61C), ("SYRIAC SUBLINEAR COLON SKEWED LEFT", 0x709),
    ("KANNADA LETTER LLLA", 0xCDE), ("LAO LETTER FO FON", 0xE9D), ("LAO LETTER FO FAY", 0xE9F),
    ("LAO LETTER RO", 0xEA3), ("LAO LETTER LO", 0xEA5),
    ("TIBETAN MARK BKA- SHOG GI MGO RGYAN", 0xFD0), ("HANGUL JONGSEONG YESIEUNG-KIYEOK", 0x11EC),
    ("HANGUL JONGSEONG YESIEUNG-SSANGKIYEOK", 0x11ED), ("HANGUL JONGSEONG SSANGYESIEUNG", 0x11EE),
    ("HANGUL JONGSEONG YESIEUNG-KHIEUKH", 0x11EF), ("FVS1", 0x180B), ("FVS2", 0x180C),
    ("FVS3", 0x180D), ("MVS", 0x180E), ("FVS4", 0x180F), ("ZWSP", 0x200B), ("ZWNJ", 0x200C),
    ("ZWJ", 0x200D), ("LRM", 0x200E), ("RLM", 0x200F), ("LRE", 0x202A), ("RLE", 0x202B),
    ("PDF", 0x202C), ("LRO", 0x202D), ("RLO", 0x202E), ("NNBSP", 0x202F), ("MMSP", 0x205F),
    ("WJ", 0x2060), ("LRI", 0x2066), ("RLI", 0x2067), ("FSI", 0x2068), ("PDI", 0x2069),
    ("WEIERSTRASS ELLIPTIC FUNCTION", 0x2118), ("MICR ON US SYMBOL", 0x2448),
    ("MICR DASH SYMBOL", 0x2449),
    ("LEFTWARDS TRIANGLE-HEADED ARROW WITH DOUBLE VERTICAL STROKE", 0x2B7A),
    ("RIGHTWARDS TRIANGLE-HEADED ARROW WITH DOUBLE VERTICAL STROKE", 0x2B7C),
    ("YI SYLLABLE ITERATION MARK", 0xA015), ("MYANMAR LETTER KHAMTI LLA", 0xAA6E),
    ("PRESENTATION FORM FOR VERTICAL RIGHT WHITE LENTICULAR BRACKET", 0xFE18),
    ("BYTE ORDER MARK", 0xFEFF), ("BOM", 0xFEFF), ("ZWNBSP", 0xFEFF),
    ("CUNEIFORM SIGN NU11 TENU", 0x122D4), ("CUNEIFORM SIGN NU11 OVER NU11 BUR OVER BUR", 0x122D5),
    ("MEDEFAIDRIN CAPITAL LETTER H", 0x16E56), ("MEDEFAIDRIN CAPITAL LETTER NG", 0x16E57),
    ("MEDEFAIDRIN SMALL LETTER H", 0x16E76), ("MEDEFAIDRIN SMALL LETTER NG", 0x16E77),
    ("HENTAIGANA LETTER E-1", 0x1B001),
    ("BYZANTINE MUSICAL SYMBOL FTHORA SKLIRON CHROMA VASIS", 0x1D0C5)]

end Assay.Text
