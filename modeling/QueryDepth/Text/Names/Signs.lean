import QueryDepth.Text.NamedRun

/-! Names of phonetic letters, punctuation, arrows, operators, boxes and other signs. -/
namespace QueryDepth

def signRuns : List NamedRun :=
  [⟨0x1d00, ["aLATIN LETTER SMALL CAPITAL Ae AEb SMALL LETTER TURNEDn",
      "b LETTER SMALL CAPITAL BARRED Be Ce De ETHe Eb SMALL LETTER TURNED OPENne I",
      "b LETTER SMALL CAPITAL Je Ke L WITH STROKEe Me REVERSED Ne Oe OPENn",
      "b SMALL LETTER SIDEWAYSne OPENne O WITH STROKEd TURNED OEb LETTER SMALL CAPITAL OU",
      "b SMALL LETTER TOP HALF Od BOTTOMob LETTER SMALL CAPITAL Pe REVERSED Re TURNEDne Te U",
      "b SMALL LETTER SIDEWAYSne DIAERESIZEDne TURNED Mb LETTER SMALL CAPITAL Ve We Ze EZH",
      "c VOICED LARYNGEAL SPIRANTc AINaGREEK LETTER SMALL CAPITAL GAMMAe LAMDAe PIe RHOe PSI",
      "aCYRILLIC LETTER SMALL CAPITAL ELaMODIFIER LETTER CAPITAL Ad AEd Bd BARREDnd Dd E",
      "d REVERSEDnd Gd Hd Id Jd Kd Ld Md Nd REVERSEDnd Od OUd Pd Rd Td Ud Wc SMALL Ad TURNEDn",
      "d ALPHAd TURNED AEd Bd Dd Ed SCHWAd OPEN Ed TURNEDod Gd TURNED Id Kd Md ENGd Od OPENn",
      "d TOP HALFnd BOTTOMod Pd Td Ud SIDEWAYSnd TURNED Md Vd AINd BETAd GREEK GAMMAd DELTA",
      "d GREEK PHId CHIaLATIN SUBSCRIPT SMALL LETTER Ie Re Ue V",
      "aGREEK SUBSCRIPT SMALL LETTER BETAe GAMMAe RHOe PHIe CHIaLATIN SMALL LETTER UE",
      "d B WITH MIDDLE TILDEd Dpd Fpd Mpd Npd Ppd Rpf FISHHOOK ANDod S WITHod Tpd Zpd TURNED G",
      "aMODIFIER LETTER CYRILLIC ENaLATIN SMALL LETTER INSULAR Gd TH WITH STRIKETHROUGH",
      "c CAPITAL LETTER I WITH STROKEc LETTER IOTAod Poc CAPITAL LETTER Uoc LETTER UPSILONo",
      "d B WITH PALATAL HOOKd Dpd Fpd Gpd Kpd Lpd Mpd Npd Ppd Rpd Spd ESHpd Vpd Xpd Zp",
      "d A WITH RETROFLEXnd ALPHApd D WITH HOOK AND TAILd E WITH RETROFLEX HOOKd OPENq",
      "d REVERSEDrd SCHWApd Ipd OPEN Opd ESHpd Upd EZHpaMODIFIER LETTER SMALL TURNED ALPHAd C",
      "e WITH CURLd ETHd REVERSED OPEN Ed Fd DOTLESS J WITH STROKEd SCRIPT Gd TURNED H",
      "d I WITH STROKEd IOTAd CAPITAL If WITH STROKEd J WITH CROSSED-TAILd L WITH RETROFLEX HOOK",
      "f PALATALnd CAPITAL Ld M WITH HOOKd TURNED M WITH LONG LEGd N WITH LEFT HOOKf RETROFLEXn",
      "d CAPITAL Nd BARRED Od PHId S WITH HOOKd ESHd T WITH PALATAL HOOKd U BARd UPSILON",
      "d CAPITAL Ud V WITH HOOKd TURNED Vd Ze WITH RETROFLEX HOOKf CURLd EZHd THETA",
      "aCOMBINING DOTTED GRAVE ACCENTc ACUTEnb SNAKE BELOWb SUSPENSION MARKb MACRON-ACUTE",
      "b GRAVE-MACRONb MACRON-GRAVEb ACUTE-MACRONb GRAVE-ACUTE-GRAVEb ACUTE-GRAVE-ACUTE",
      "b LATIN SMALL LETTER R BELOWb BREVE-MACRONb MACRON-BREVEb DOUBLE CIRCUMFLEX ABOVE",
      "b OGONEKnb ZIGZAG BELOWb ISnb UR ABOVEb USnb LATIN SMALL LETTER FLATTENED OPEN Ane AEe AO",
      "e AVe C CEDILLAe INSULAR De ETHe Gc LETTER SMALL CAPITALnc SMALL LETTER Ke L",
      "c LETTER SMALL CAPITALnf Mc SMALL LETTER Nc LETTER SMALL CAPITALnf R",
      "c SMALL LETTER R ROTUNDAe Se LONGne Ze ALPHAe Be BETAe SCHWAe F",
      "e L WITH DOUBLE MIDDLE TILDEe O WITH LIGHT CENTRALIZATION STROKEe Pe ESH",
      "e U WITH LIGHT CENTRALIZATION STROKEe We A WITH DIAERESISe Ooe Uob UP TACK ABOVE",
      "b KAVYKA ABOVE RIGHTd LEFTb DOTob WIDE INVERTED BRIDGE BELOWb DOT BELOW LEFT",
      "b DELETION MARKb DOUBLE INVERTED BREVE BELOWb ALMOST EQUAL TOnb LEFT ARROWHEAD ABOVE",
      "b RIGHT ARROWHEAD AND DOWN ARROWHEAD BELOWaLATIN CAPITAL LETTER A WITH RINGnb SMALLr",
      "b CAPITAL LETTER B WITH DOT ABOVEb SMALLrb CAPITAL LETTER B WITH DOT BELOWb SMALLr",
      "b CAPITAL LETTER B WITH LINEnb SMALLrb CAPITAL LETTER C WITH CEDILLA AND ACUTEb SMALLs",
      "b CAPITAL LETTER D WITH DOT ABOVEb SMALLrb CAPITAL LETTER D WITH DOT BELOWb SMALLr",
      "b CAPITAL LETTER D WITH LINEnb SMALLrb CAPITAL LETTER D WITH CEDILLAb SMALLq",
      "b CAPITAL LETTER D WITH CIRCUMFLEX BELOWb SMALLrb CAPITAL LETTER E WITH MACRON AND GRAVE",
      "b SMALLsb CAPITAL LETTER E WITH MACRON AND ACUTEb SMALLs",
      "b CAPITAL LETTER E WITH CIRCUMFLEX BELOWb SMALLrb CAPITAL LETTER E WITH TILDEnb SMALLr",
      "b CAPITAL LETTER E WITH CEDILLA AND BREVEb SMALLsb CAPITAL LETTER F WITH DOT ABOVE",
      "b SMALLrb CAPITAL LETTER G WITH MACRONb SMALLqb CAPITAL LETTER H WITH DOT ABOVEb SMALLr",
      "b CAPITAL LETTER H WITH DOT BELOWb SMALLrb CAPITAL LETTER H WITH DIAERESISb SMALLq",
      "b CAPITAL LETTER H WITH CEDILLAb SMALLqb CAPITAL LETTER H WITH BREVE BELOWb SMALLr",
      "b CAPITAL LETTER I WITH TILDEnb SMALLrb CAPITAL LETTER I WITH DIAERESIS AND ACUTEb SMALLs",
      "b CAPITAL LETTER K WITHnb SMALLqb CAPITAL LETTER K WITH DOT BELOWb SMALLr",
      "b CAPITAL LETTER K WITH LINEnb SMALLrb CAPITAL LETTER L WITH DOTnb SMALLr",
      "b CAPITAL LETTER L WITH DOT BELOW AND MACRONb SMALLtb CAPITAL LETTER L WITH LINE BELOW",
      "b SMALLrb CAPITAL LETTER L WITH CIRCUMFLEXnb SMALLrb CAPITAL LETTER M WITH ACUTEb SMALLq",
      "b CAPITAL LETTER M WITH DOT ABOVEb SMALLrb CAPITAL LETTER M WITH DOT BELOWb SMALLr",
      "b CAPITAL LETTER N WITH DOT ABOVEb SMALLrb CAPITAL LETTER N WITH DOT BELOWb SMALLr",
      "b CAPITAL LETTER N WITH LINEnb SMALLrb CAPITAL LETTER N WITH CIRCUMFLEXnb SMALLr",
      "b CAPITAL LETTER O WITH TILDE AND ACUTEb SMALLs",
      "b CAPITAL LETTER O WITH TILDE AND DIAERESISb SMALLs",
      "b CAPITAL LETTER O WITH MACRON AND GRAVEb SMALLsb CAPITAL LETTER O WITH MACRON AND ACUTE",
      "b SMALLsb CAPITAL LETTER P WITHnb SMALLqb CAPITAL LETTER P WITH DOT ABOVEb SMALLr",
      "b CAPITAL LETTER Rpb SMALLrb CAPITAL LETTER R WITH DOT BELOWb SMALLr",
      "b CAPITAL LETTER R WITH DOT BELOW AND MACRONb SMALLtb CAPITAL LETTER R WITH LINE BELOW",
      "b SMALLrb CAPITAL LETTER S WITH DOT ABOVEb SMALLrb CAPITAL LETTER S WITH DOT BELOW",
      "b SMALLrb CAPITAL LETTER S WITH ACUTE AND DOT ABOVEb SMALLtb CAPITAL LETTER S WITH CARONp",
      "b SMALLtb CAPITAL LETTER S WITH DOT BELOWpb SMALLub CAPITAL LETTER T WITHob SMALLr",
      "b CAPITAL LETTER T WITH DOT BELOWb SMALLrb CAPITAL LETTER T WITH LINEnb SMALLr",
      "b CAPITAL LETTER T WITH CIRCUMFLEXnb SMALLrb CAPITAL LETTER U WITH DIAERESISnb SMALLr",
      "b CAPITAL LETTER U WITH TILDEnb SMALLrb CAPITAL LETTER U WITH CIRCUMFLEXnb SMALLr",
      "b CAPITAL LETTER U WITH TILDE AND ACUTEb SMALLs",
      "b CAPITAL LETTER U WITH MACRON AND DIAERESISb SMALLsb CAPITAL LETTER V WITH TILDEb SMALLq",
      "b CAPITAL LETTER V WITH DOT BELOWb SMALLrb CAPITAL LETTER W WITH GRAVEb SMALLq",
      "b CAPITAL LETTER W WITH ACUTEb SMALLqb CAPITAL LETTER W WITH DIAERESISb SMALLq",
      "b CAPITAL LETTER W WITH DOT ABOVEb SMALLrb CAPITAL LETTER W WITH DOT BELOWb SMALLr",
      "b CAPITAL LETTER X WITH DOT ABOVEb SMALLrb CAPITAL LETTER X WITH DIAERESISb SMALLq",
      "b CAPITAL LETTER Y WITH DOT ABOVEb SMALLrb CAPITAL LETTER Z WITH CIRCUMFLEXb SMALLq",
      "b CAPITAL LETTER Z WITH DOT BELOWb SMALLrb CAPITAL LETTER Z WITH LINEnb SMALLrd Hp",
      "d T WITH DIAERESISd W WITH RING ABOVEd Ypd A WITH RIGHT HALF RINGd LONG S WITH DOT ABOVE",
      "g DIAGONAL STROKEg HIGHnb CAPITAL LETTER SHARP Sb SMALL LETTER DELTA",
      "b CAPITAL LETTER A WITH DOT BELOWb SMALLrb CAPITAL LETTER A WITH HOOK ABOVEb SMALLr",
      "b CAPITAL LETTER A WITH CIRCUMFLEX AND ACUTEb SMALLs",
      "b CAPITAL LETTER A WITH CIRCUMFLEX AND GRAVEb SMALLs",
      "b CAPITAL LETTER A WITH CIRCUMFLEX AND HOOK ABOVEb SMALLt",
      "b CAPITAL LETTER A WITH CIRCUMFLEX AND TILDEb SMALLs",
      "b CAPITAL LETTER A WITH CIRCUMFLEX AND DOT BELOWb SMALLt",
      "b CAPITAL LETTER A WITH BREVE AND ACUTEb SMALLsb CAPITAL LETTER A WITH BREVE AND GRAVE",
      "b SMALLsb CAPITAL LETTER A WITH BREVE AND HOOK ABOVEb SMALLt",
      "b CAPITAL LETTER A WITH BREVE AND TILDEb SMALLs",
      "b CAPITAL LETTER A WITH BREVE AND DOT BELOWb SMALLtb CAPITAL LETTER E WITHob SMALLr",
      "b CAPITAL LETTER E WITH HOOK ABOVEb SMALLrb CAPITAL LETTER E WITH TILDEb SMALLq",
      "b CAPITAL LETTER E WITH CIRCUMFLEX AND ACUTEb SMALLs",
      "b CAPITAL LETTER E WITH CIRCUMFLEX AND GRAVEb SMALLs",
      "b CAPITAL LETTER E WITH CIRCUMFLEX AND HOOK ABOVEb SMALLt",
      "b CAPITAL LETTER E WITH CIRCUMFLEX AND TILDEb SMALLs",
      "b CAPITAL LETTER E WITH CIRCUMFLEX AND DOT BELOWb SMALLt",
      "b CAPITAL LETTER I WITH HOOK ABOVEb SMALLrb CAPITAL LETTER I WITH DOT BELOWb SMALLr",
      "b CAPITAL LETTER Opb SMALLrb CAPITAL LETTER O WITH HOOK ABOVEb SMALLr",
      "b CAPITAL LETTER O WITH CIRCUMFLEX AND ACUTEb SMALLs",
      "b CAPITAL LETTER O WITH CIRCUMFLEX AND GRAVEb SMALLs",
      "b CAPITAL LETTER O WITH CIRCUMFLEX AND HOOK ABOVEb SMALLt",
      "b CAPITAL LETTER O WITH CIRCUMFLEX AND TILDEb SMALLs",
      "b CAPITAL LETTER O WITH CIRCUMFLEX AND DOT BELOWb SMALLt",
      "b CAPITAL LETTER O WITH HORN AND ACUTEb SMALLsb CAPITAL LETTER O WITH HORN AND GRAVE",
      "b SMALLsb CAPITAL LETTER O WITH HORN AND HOOK ABOVEb SMALLt",
      "b CAPITAL LETTER O WITH HORN AND TILDEb SMALLsb CAPITAL LETTER O WITH HORN AND DOT BELOW",
      "b SMALLtb CAPITAL LETTER U WITHob SMALLrb CAPITAL LETTER U WITH HOOK ABOVEb SMALLr",
      "b CAPITAL LETTER U WITH HORN AND ACUTEb SMALLsb CAPITAL LETTER U WITH HORN AND GRAVE",
      "b SMALLsb CAPITAL LETTER U WITH HORN AND HOOK ABOVEb SMALLt",
      "b CAPITAL LETTER U WITH HORN AND TILDEb SMALLsb CAPITAL LETTER U WITH HORN AND DOT BELOW",
      "b SMALLtb CAPITAL LETTER Y WITH GRAVEb SMALLqb CAPITAL LETTER Y WITH DOT BELOWb SMALLr",
      "b CAPITAL LETTER Y WITH HOOK ABOVEb SMALLrb CAPITAL LETTER Y WITH TILDEb SMALLq",
      "b CAPITAL LETTER MIDDLE-WELSH LLb SMALLqb CAPITAL LETTER MIDDLE-WELSH Vb SMALLq",
      "b CAPITAL LETTER Y WITH LOOPb SMALLqaGREEK SMALL LETTER ALPHA WITH PSILIf DASIA",
      "f PSILI AND VARIAf DASIAof PSILI AND OXIAf DASIAof PSILI AND PERISPOMENIf DASIAo",
      "b CAPITAL LETTER ALPHA WITH PSILIf DASIAf PSILI AND VARIAf DASIAof PSILI AND OXIAf DASIAo",
      "f PSILI AND PERISPOMENIf DASIAob SMALL LETTER EPSILON WITH PSILIf DASIAf PSILI AND VARIA",
      "f DASIAof PSILI AND OXIAf DASIAo"]⟩,
   ⟨0x1f18, ["aGREEK CAPITAL LETTER EPSILON WITH PSILIf DASIAf PSILI AND VARIAf DASIAo",
      "f PSILI AND OXIAf DASIAo"]⟩,
   ⟨0x1f20, ["aGREEK SMALL LETTER ETA WITH PSILIf DASIAf PSILI AND VARIAf DASIAof PSILI AND OXIA",
      "f DASIAof PSILI AND PERISPOMENIf DASIAob CAPITAL LETTER ETA WITH PSILIf DASIA",
      "f PSILI AND VARIAf DASIAof PSILI AND OXIAf DASIAof PSILI AND PERISPOMENIf DASIAo",
      "b SMALL LETTER IOTA WITH PSILIf DASIAf PSILI AND VARIAf DASIAof PSILI AND OXIAf DASIAo",
      "f PSILI AND PERISPOMENIf DASIAob CAPITAL LETTER IOTA WITH PSILIf DASIAf PSILI AND VARIA",
      "f DASIAof PSILI AND OXIAf DASIAof PSILI AND PERISPOMENIf DASIAo",
      "b SMALL LETTER OMICRON WITH PSILIf DASIAf PSILI AND VARIAf DASIAof PSILI AND OXIAf DASIAo"]⟩,
   ⟨0x1f48, ["aGREEK CAPITAL LETTER OMICRON WITH PSILIf DASIAf PSILI AND VARIAf DASIAo",
      "f PSILI AND OXIAf DASIAo"]⟩,
   ⟨0x1f50, ["aGREEK SMALL LETTER UPSILON WITH PSILIf DASIAf PSILI AND VARIAf DASIAo",
      "f PSILI AND OXIAf DASIAof PSILI AND PERISPOMENIf DASIAo"]⟩,
   ⟨0x1f59, ["aGREEK CAPITAL LETTER UPSILON WITH DASIA"]⟩,
   ⟨0x1f5b, ["aGREEK CAPITAL LETTER UPSILON WITH DASIA AND VARIA"]⟩,
   ⟨0x1f5d, ["aGREEK CAPITAL LETTER UPSILON WITH DASIA AND OXIA"]⟩,
   ⟨0x1f5f, ["aGREEK CAPITAL LETTER UPSILON WITH DASIA AND PERISPOMENI",
      "b SMALL LETTER OMEGA WITH PSILIf DASIAf PSILI AND VARIAf DASIAof PSILI AND OXIAf DASIAo",
      "f PSILI AND PERISPOMENIf DASIAob CAPITAL LETTER OMEGA WITH PSILIf DASIAf PSILI AND VARIA",
      "f DASIAof PSILI AND OXIAf DASIAof PSILI AND PERISPOMENIf DASIAo",
      "b SMALL LETTER ALPHA WITH VARIAf OXIAd EPSILON WITH VARIAf OXIAd ETA WITH VARIAf OXIA",
      "d IOTA WITH VARIAf OXIAd OMICRON WITH VARIAf OXIAd UPSILON WITH VARIAf OXIA",
      "d OMEGA WITH VARIAf OXIA"]⟩,
   ⟨0x1f80, ["aGREEK SMALL LETTER ALPHA WITH PSILI AND YPOGEGRAMMENIf DASIAof PSILI AND VARIAo",
      "f DASIAqf PSILI AND OXIAof DASIAqf PSILI AND PERISPOMENIof DASIAq",
      "b CAPITAL LETTER ALPHA WITH PSILI AND PROSGEGRAMMENIf DASIAof PSILI AND VARIAof DASIAq",
      "f PSILI AND OXIAof DASIAqf PSILI AND PERISPOMENIof DASIAq",
      "b SMALL LETTER ETA WITH PSILI AND YPOGEGRAMMENIf DASIAof PSILI AND VARIAof DASIAq",
      "f PSILI AND OXIAof DASIAqf PSILI AND PERISPOMENIof DASIAq",
      "b CAPITAL LETTER ETA WITH PSILI AND PROSGEGRAMMENIf DASIAof PSILI AND VARIAof DASIAq",
      "f PSILI AND OXIAof DASIAqf PSILI AND PERISPOMENIof DASIAq",
      "b SMALL LETTER OMEGA WITH PSILI AND YPOGEGRAMMENIf DASIAof PSILI AND VARIAof DASIAq",
      "f PSILI AND OXIAof DASIAqf PSILI AND PERISPOMENIof DASIAq",
      "b CAPITAL LETTER OMEGA WITH PSILI AND PROSGEGRAMMENIf DASIAof PSILI AND VARIAof DASIAq",
      "f PSILI AND OXIAof DASIAqf PSILI AND PERISPOMENIof DASIAqb SMALL LETTER ALPHA WITH VRACHY",
      "f MACRONf VARIA AND YPOGEGRAMMENIfnf OXIA ANDn"]⟩,
   ⟨0x1fb6, ["aGREEK SMALL LETTER ALPHA WITH PERISPOMENIg AND YPOGEGRAMMENI",
      "b CAPITAL LETTER ALPHA WITH VRACHYf MACRONf VARIAf OXIAf PROSGEGRAMMENIb KORONIS",
      "b PROSGEGRAMMENIb PSILIb PERISPOMENIb DIALYTIKA ANDn",
      "b SMALL LETTER ETA WITH VARIA AND YPOGEGRAMMENIfnf OXIA ANDn"]⟩,
   ⟨0x1fc6, ["aGREEK SMALL LETTER ETA WITH PERISPOMENIg AND YPOGEGRAMMENI",
      "b CAPITAL LETTER EPSILON WITH VARIAf OXIAd ETA WITH VARIAf OXIAf PROSGEGRAMMENI",
      "b PSILI AND VARIAd OXIAd PERISPOMENIb SMALL LETTER IOTA WITH VRACHYf MACRON",
      "f DIALYTIKA AND VARIAh OXIA"]⟩,
   ⟨0x1fd6, ["aGREEK SMALL LETTER IOTA WITH PERISPOMENIf DIALYTIKA ANDn",
      "b CAPITAL LETTER IOTA WITH VRACHYf MACRONf VARIAf OXIA"]⟩,
   ⟨0x1fdd, ["aGREEK DASIA AND VARIAd OXIAd PERISPOMENIb SMALL LETTER UPSILON WITH VRACHY",
      "f MACRONf DIALYTIKA AND VARIAh OXIAd RHO WITH PSILIf DASIAd UPSILON WITH PERISPOMENI",
      "f DIALYTIKA ANDnb CAPITAL LETTER UPSILON WITH VRACHYf MACRONf VARIAf OXIAd RHO WITH DASIA",
      "b DIALYTIKA AND VARIAd OXIAb VARIA"]⟩,
   ⟨0x1ff2, ["aGREEK SMALL LETTER OMEGA WITH VARIA AND YPOGEGRAMMENIfnf OXIA ANDn"]⟩,
   ⟨0x1ff6, ["aGREEK SMALL LETTER OMEGA WITH PERISPOMENIg AND YPOGEGRAMMENI",
      "b CAPITAL LETTER OMICRON WITH VARIAf OXIAd OMEGA WITH VARIAf OXIAf PROSGEGRAMMENIb OXIA",
      "b DASIA"]⟩,
   ⟨0x2000, ["aEN QUADaEMnaEN SPACEaEMnaTHREE-PER-EMnaFOURpaSIXpaFIGUREnaPUNCTUATIONnaTHINn",
      "aHAIRnaZERO WIDTHnc NON-JOINERc JOINERaLEFT-TO-RIGHT MARKaRIGHT-TO-LEFTnaHYPHEN",
      "aNON-BREAKING HYPHENaFIGURE DASHaENnaEMnaHORIZONTAL BARaDOUBLE VERTICAL LINEb LOWn",
      "aLEFT SINGLE QUOTATION MARKaRIGHTpaSINGLE LOW-9ob HIGH-REVERSEDpaLEFT DOUBLEoaRIGHTp",
      "aDOUBLE LOW-9ob HIGH-REVERSEDpaDAGGERaDOUBLE DAGGERaBULLETaTRIANGULAR BULLET",
      "aONE DOT LEADERaTWOoaHORIZONTAL ELLIPSISaHYPHENATION POINTaLINE SEPARATORaPARAGRAPHn",
      "aLEFT-TO-RIGHT EMBEDDINGaRIGHT-TO-LEFTnaPOP DIRECTIONAL FORMATTINGaLEFT-TO-RIGHT OVERRIDE",
      "aRIGHT-TO-LEFTnaNARROW NO-BREAK SPACEaPER MILLE SIGNb TEN THOUSANDnaPRIMEaDOUBLE PRIME",
      "aTRIPLEnaREVERSEDnb DOUBLEnb TRIPLEnaCARETaSINGLE LEFT-POINTING ANGLE QUOTATION MARK",
      "b RIGHTqaREFERENCEnaDOUBLE EXCLAMATIONnaINTERROBANGaOVERLINEaUNDERTIEaCHARACTER TIE",
      "aCARET INSERTION POINTaASTERISMaHYPHEN BULLETaFRACTION SLASH",
      "aLEFT SQUARE BRACKET WITH QUILLaRIGHTqaDOUBLE QUESTION MARKaQUESTION EXCLAMATIONn",
      "aEXCLAMATION QUESTIONnaTIRONIAN SIGN ETaREVERSED PILCROW SIGNaBLACK LEFTWARDS BULLET",
      "b RIGHTWARDSnaLOW ASTERISKaREVERSED SEMICOLONaCLOSE UPaTWO ASTERISKS ALIGNED VERTICALLY",
      "aCOMMERCIAL MINUS SIGNaSWUNG DASHaINVERTED UNDERTIEaFLOWER PUNCTUATION MARK",
      "aTHREE DOT PUNCTUATIONaQUADRUPLE PRIMEaFOUR DOT PUNCTUATIONaFIVEoaTWOoaFOUR DOT MARK",
      "aDOTTED CROSSaTRICOLONaVERTICAL FOUR DOTSaMEDIUM MATHEMATICAL SPACEaWORD JOINER",
      "aFUNCTION APPLICATIONaINVISIBLE TIMESb SEPARATORb PLUS"]⟩,
   ⟨0x2066, ["aLEFT-TO-RIGHT ISOLATEaRIGHT-TO-LEFTnaFIRST STRONGnaPOP DIRECTIONALn",
      "aINHIBIT SYMMETRIC SWAPPINGaACTIVATEoaINHIBIT ARABIC FORM SHAPINGaACTIVATEp",
      "aNATIONAL DIGIT SHAPESaNOMINALoaSUPERSCRIPT ZEROb LATIN SMALL LETTER I"]⟩,
   ⟨0x2074, ["aSUPERSCRIPT FOURb FIVEb SIXb SEVENb EIGHTb NINEb PLUS SIGNb MINUSb EQUALS SIGN",
      "b LEFT PARENTHESISb RIGHTnb LATIN SMALL LETTER NaSUBSCRIPT ZEROb ONEb TWOb THREEb FOUR",
      "b FIVEb SIXb SEVENb EIGHTb NINEb PLUS SIGNb MINUSb EQUALS SIGNb LEFT PARENTHESISb RIGHTn"]⟩,
   ⟨0x2090, ["aLATIN SUBSCRIPT SMALL LETTER Ae Ee Oe Xe SCHWAe He Ke Le Me Ne Pe Se T"]⟩,
   ⟨0x20a0, ["aEURO-CURRENCY SIGNaCOLONnaCRUZEIROnaFRENCH FRANCnaLIRAnaMILLnaNAIRAnaPESETAn",
      "aRUPEEnaWONnaNEW SHEQELnaDONGnaEUROnaKIPnaTUGRIKnaDRACHMAnaGERMAN PENNYnaPESOnaGUARANIn",
      "aAUSTRALnaHRYVNIAnaCEDInaLIVRE TOURNOISnaSPESMILOnaTENGEnaINDIAN RUPEEnaTURKISH LIRAn",
      "aNORDIC MARKnaMANATnaRUBLEnaLARInaBITCOINnaSOMn"]⟩,
   ⟨0x20d0, ["aCOMBINING LEFT HARPOON ABOVEb RIGHTob LONG VERTICAL LINE OVERLAYb SHORTp",
      "b ANTICLOCKWISE ARROW ABOVEb CLOCKWISEob LEFTob RIGHTob RING OVERLAYb CLOCKWISEo",
      "b ANTICLOCKWISEob THREE DOTS ABOVEb FOURob ENCLOSING CIRCLEc SQUAREc DIAMOND",
      "c CIRCLE BACKSLASHb LEFT RIGHT ARROW ABOVEb ENCLOSING SCREENc KEYCAP",
      "c UPWARD POINTING TRIANGLEb REVERSE SOLIDUS OVERLAYb DOUBLE VERTICAL STROKEn",
      "b ANNUITY SYMBOLb TRIPLE UNDERDOTb WIDE BRIDGE ABOVEb LEFTWARDS ARROW OVERLAY",
      "b LONG DOUBLE SOLIDUSnb RIGHTWARDS HARPOON WITH BARB DOWNWARDSb LEFTWARDSq",
      "b LEFT ARROW BELOWb RIGHTob ASTERISK ABOVE"]⟩,
   ⟨0x2100, ["aACCOUNT OFaADDRESSED TO THE SUBJECTaDOUBLE-STRUCK CAPITAL CaDEGREE CELSIUS",
      "aCENTRE LINE SYMBOLaCARE OFaCADA UNAaEULER CONSTANTaSCRUPLEaDEGREE FAHRENHEIT",
      "aSCRIPT SMALL Gb CAPITAL HaBLACK-LETTERoaDOUBLE-STRUCKoaPLANCK CONSTANTc OVER TWO PI",
      "aSCRIPT CAPITAL IaBLACK-LETTERoaSCRIPT CAPITAL Lb SMALLnaL B BAR SYMBOL",
      "aDOUBLE-STRUCK CAPITAL NaNUMERO SIGNaSOUND RECORDING COPYRIGHTaSCRIPT CAPITAL P",
      "aDOUBLE-STRUCKod QaSCRIPT CAPITAL RaBLACK-LETTERoaDOUBLE-STRUCKoaPRESCRIPTION TAKE",
      "aRESPONSEaSERVICE MARKaTELEPHONE SIGNaTRADE MARKnaVERSICLEaDOUBLE-STRUCK CAPITAL Z",
      "aOUNCE SIGNaOHMnaINVERTED OHMnaBLACK-LETTER CAPITAL ZaTURNED GREEK SMALL LETTER IOTA",
      "aKELVIN SIGNaANGSTROMnaSCRIPT CAPITAL BaBLACK-LETTER CAPITAL CaESTIMATED SYMBOL",
      "aSCRIPT SMALL Eb CAPITALnc FaTURNEDoaSCRIPT CAPITAL Mb SMALL OaALEF SYMBOLaBETnaGIMELn",
      "aDALETnaINFORMATION SOURCEaROTATED CAPITAL QaFACSIMILE SIGNaDOUBLE-STRUCK SMALL PId GAMMA",
      "c CAPITALnd PIc N-ARY SUMMATIONaTURNED SANS-SERIF CAPITAL Ge LaREVERSEDq",
      "aTURNED SANS-SERIF CAPITAL YaDOUBLE-STRUCK ITALIC CAPITAL Dd SMALLne Ee Ie J",
      "aPROPERTY LINEaTURNED AMPERSANDaPER SIGNaAKTIESELSKABaTURNED SMALL F",
      "aSYMBOL FOR SAMARITAN SOURCEaVULGAR FRACTION ONE SEVENTHd NINTHd TENTHd THIRDc TWO THIRDS",
      "c ONE FIFTHc TWO FIFTHSc THREEnc FOURnc ONE SIXTHc FIVE SIXTHSc ONE EIGHTHc THREE EIGHTHS",
      "c FIVEnc SEVENnaFRACTION NUMERATOR ONEaROMAN NUMERALnc TWOc THREEc FOURc FIVEc SIXc SEVEN",
      "c EIGHTc NINEc TENc ELEVENc TWELVEc FIFTYc ONE HUNDREDc FIVEnc ONE THOUSAND",
      "aSMALL ROMAN NUMERAL ONEd TWOd THREEd FOURd FIVEd SIXd SEVENd EIGHTd NINEd TENd ELEVEN",
      "d TWELVEd FIFTYd ONE HUNDREDd FIVEnd ONE THOUSANDaROMAN NUMERAL ONE THOUSAND C D",
      "c FIVE THOUSANDc TENnc REVERSED ONE HUNDREDaLATIN SMALL LETTER REVERSED C",
      "aROMAN NUMERAL SIX LATE FORMc FIFTY EARLYnd THOUSANDc ONE HUNDREDn",
      "aVULGAR FRACTION ZERO THIRDSaTURNED DIGIT TWOc THREE"]⟩,
   ⟨0x2190, ["aLEFTWARDS ARROWaUPWARDSnaRIGHTWARDSnaDOWNWARDSnaLEFT RIGHTnaUP DOWNnaNORTH WESTn",
      "b EASTnaSOUTHob WESTnaLEFTWARDS ARROW WITH STROKEaRIGHTWARDSpaLEFTWARDS WAVE ARROW",
      "aRIGHTWARDSoaLEFTWARDS TWO HEADEDnaUPWARDSpaRIGHTWARDSpaDOWNWARDSp",
      "aLEFTWARDS ARROW WITH TAILaRIGHTWARDSpaLEFTWARDS ARROW FROM BARaUPWARDSpaRIGHTWARDSp",
      "aDOWNWARDSpaUP DOWN ARROW WITH BASEaLEFTWARDS ARROW WITH HOOKaRIGHTWARDSp",
      "aLEFTWARDS ARROW WITH LOOPaRIGHTWARDSpaLEFT RIGHT WAVE ARROWc ARROW WITH STROKE",
      "aDOWNWARDS ZIGZAG ARROWaUPWARDS ARROW WITH TIP LEFTWARDSe RIGHTWARDS",
      "aDOWNWARDS ARROW WITH TIP LEFTWARDSe RIGHTWARDSaRIGHTWARDS ARROW WITH CORNER DOWNWARDS",
      "aDOWNWARDS ARROW WITH CORNER LEFTWARDSaANTICLOCKWISE TOP SEMICIRCLE ARROWaCLOCKWISEp",
      "aNORTH WEST ARROW TO LONG BARaLEFTWARDS ARROW TO BAR OVER RIGHTWARDS ARROW TOn",
      "aANTICLOCKWISE OPEN CIRCLE ARROWaCLOCKWISEpaLEFTWARDS HARPOON WITH BARB UPWARDS",
      "e DOWNWARDSaUPWARDS HARPOON WITH BARB RIGHTWARDSe LEFTWARDS",
      "aRIGHTWARDS HARPOON WITH BARB UPWARDSe DOWNWARDSaDOWNWARDS HARPOON WITH BARB RIGHTWARDS",
      "e LEFTWARDSaRIGHTWARDS ARROW OVER LEFTWARDS ARROWaUPWARDS ARROW LEFTWARDS OF DOWNWARDSn",
      "aLEFTWARDS ARROW OVER RIGHTWARDSnb PAIRED ARROWSaUPWARDSoaRIGHTWARDSoaDOWNWARDSo",
      "aLEFTWARDS HARPOON OVER RIGHTWARDS HARPOONaRIGHTWARDS HARPOON OVER LEFTWARDSn",
      "aLEFTWARDS DOUBLE ARROW WITH STROKEaLEFT RIGHTqaRIGHTWARDSqaLEFTWARDS DOUBLE ARROW",
      "aUPWARDSoaRIGHTWARDSoaDOWNWARDSoaLEFT RIGHToaUP DOWNoaNORTH WESTob EASToaSOUTHpb WESTo",
      "aLEFTWARDS TRIPLEnaRIGHTWARDSoaLEFTWARDS SQUIGGLEnaRIGHTWARDSo",
      "aUPWARDS ARROW WITH DOUBLE STROKEaDOWNWARDSqaLEFTWARDS DASHED ARROWaUPWARDSoaRIGHTWARDSo",
      "aDOWNWARDSoaLEFTWARDS ARROW TO BARaRIGHTWARDSpaLEFTWARDS WHITE ARROWaUPWARDSoaRIGHTWARDSo",
      "aDOWNWARDSoaUPWARDS WHITE ARROW FROM BARd ON PEDESTALf WITH HORIZONTAL BARg VERTICALn",
      "c DOUBLE ARROWe ON PEDESTALaRIGHTWARDS WHITE ARROW FROM WALLaNORTH WEST ARROW TO CORNER",
      "aSOUTH EASTpaUP DOWN WHITE ARROWaRIGHT ARROW WITH SMALL CIRCLE",
      "aDOWNWARDS ARROW LEFTWARDS OF UPWARDS ARROWaTHREE RIGHTWARDS ARROWS",
      "aLEFTWARDS ARROW WITH VERTICAL STROKEaRIGHTWARDSqaLEFT RIGHTq",
      "aLEFTWARDS ARROW WITH DOUBLEoaRIGHTWARDSraLEFT RIGHTraLEFTWARDS OPEN-HEADED ARROW",
      "aRIGHTWARDSpaLEFT RIGHTpaFOR ALLaCOMPLEMENTaPARTIAL DIFFERENTIALaTHERE EXISTS",
      "b DOES NOT EXISTaEMPTY SETaINCREMENTaNABLAaELEMENT OFaNOT AN ELEMENTnaSMALLo",
      "aCONTAINS AS MEMBERaDOES NOT CONTAINoaSMALL CONTAINSoaEND OF PROOFaN-ARY PRODUCT",
      "c COPRODUCTc SUMMATIONaMINUS SIGNb-OR-PLUSnaDOT PLUSaDIVISION SLASHaSET MINUS",
      "aASTERISK OPERATORaRINGnaBULLETnaSQUARE ROOTaCUBEnaFOURTHnaPROPORTIONAL TOaINFINITY",
      "aRIGHT ANGLEaANGLEaMEASURED ANGLEaSPHERICALnaDIVIDESaDOES NOT DIVIDEaPARALLEL TO",
      "aNOT PARALLELnaLOGICAL ANDb ORaINTERSECTIONaUNIONaINTEGRALaDOUBLE INTEGRALaTRIPLEn",
      "aCONTOURnaSURFACEnaVOLUMEnaCLOCKWISEnb CONTOURnaANTICLOCKWISEoaTHEREFOREaBECAUSEaRATIO",
      "aPROPORTIONaDOT MINUSaEXCESSaGEOMETRIC PROPORTIONaHOMOTHETICaTILDE OPERATOR",
      "aREVERSED TILDEaINVERTED LAZY SaSINE WAVEaWREATH PRODUCTaNOT TILDEaMINUSn",
      "aASYMPTOTICALLY EQUAL TOaNOT ASYMPTOTICALLYoaAPPROXIMATELYob BUT NOT ACTUALLYo",
      "aNEITHER APPROXIMATELY NORpaALMOSToaNOT ALMOSToaALMOST EQUAL ORoaTRIPLE TILDE",
      "aALL EQUAL TOaEQUIVALENTnaGEOMETRICALLY EQUIVALENTnaDIFFERENCE BETWEEN",
      "aAPPROACHES THE LIMITaGEOMETRICALLY EQUAL TOaAPPROXIMATELY EQUAL TO OR THE IMAGE OF",
      "aIMAGE OF OR APPROXIMATELY EQUAL TOaCOLON EQUALSaEQUALS COLONaRING IN EQUAL TObo",
      "aCORRESPONDSnaESTIMATESaEQUIANGULAR TOaSTAR EQUALSaDELTA EQUAL TOaEQUAL TO BY DEFINITION",
      "aMEASURED BYaQUESTIONED EQUAL TOaNOToaIDENTICALnaNOT IDENTICALnaSTRICTLY EQUIVALENTn",
      "aLESS-THAN OR EQUALnaGREATERqaLESS-THAN OVERoaGREATERqaLESS-THAN BUT NOToaGREATERr",
      "aMUCH LESS-THANb GREATERnaBETWEENaNOT EQUIVALENT TOb LESS-THANb GREATERn",
      "aNEITHER LESS-THAN NOR EQUAL TOb GREATERqaLESS-THAN OR EQUIVALENTnaGREATERq",
      "aNEITHER LESS-THAN NORob GREATERqaLESS-THAN OR GREATER-THANaGREATER-THAN OR LESSn",
      "aNEITHER LESS-THAN NOR GREATERnb GREATER-THAN NOR LESSnaPRECEDESaSUCCEEDS",
      "aPRECEDES OR EQUAL TOaSUCCEEDSpaPRECEDES OR EQUIVALENTnaSUCCEEDSpaDOES NOT PRECEDE",
      "c SUCCEEDaSUBSET OFaSUPERSETnaNOT A SUBSETnc SUPERSETnaSUBSET OF OR EQUAL TOaSUPERSETq",
      "aNEITHER A SUBSET OF NORoc SUPERSETqaSUBSET OF WITH NOToaSUPERSETraMULTISET",
      "b MULTIPLICATIONb UNIONaSQUARE IMAGE OFb ORIGINALnb IMAGE OF OR EQUAL TOb ORIGINALqb CAP",
      "b CUPaCIRCLED PLUSb MINUSb TIMESb DIVISION SLASHb DOT OPERATORb RINGnb ASTERISKnb EQUALS",
      "b DASHaSQUARED PLUSb MINUSb TIMESb DOT OPERATORaRIGHT TACKaLEFTnaDOWNnaUPnaASSERTION",
      "aMODELSaTRUEaFORCESaTRIPLE VERTICAL BAR RIGHT TURNSTILEaDOUBLE VERTICAL BAR DOUBLEo",
      "aDOES NOT PROVEaNOT TRUEaDOES NOT FORCE",
      "aNEGATED DOUBLE VERTICAL BAR DOUBLE RIGHT TURNSTILEaPRECEDES UNDER RELATIONaSUCCEEDSo",
      "aNORMAL SUBGROUP OFaCONTAINS AS NORMAL SUBGROUPaNORMAL SUBGROUP OF OR EQUAL TO",
      "aCONTAINS AS NORMAL SUBGROUPpaORIGINAL OFaIMAGEnaMULTIMAPaHERMITIAN CONJUGATE MATRIX",
      "aINTERCALATEaXORaNANDaNORaRIGHT ANGLE WITH ARCb TRIANGLEaN-ARY LOGICAL ANDd OR",
      "c INTERSECTIONc UNIONaDIAMOND OPERATORaDOTnaSTARnaDIVISION TIMESaBOWTIE",
      "aLEFT NORMAL FACTOR SEMIDIRECT PRODUCTaRIGHTqaLEFToaRIGHToaREVERSED TILDE EQUALS",
      "aCURLY LOGICAL ORc ANDaDOUBLE SUBSETb SUPERSETb INTERSECTIONb UNIONaPITCHFORK",
      "aEQUAL AND PARALLEL TOaLESS-THAN WITH DOTaGREATERpaVERY MUCH LESS-THANc GREATERn",
      "aLESS-THAN EQUAL TO ORoaGREATER-THAN EQUAL TO OR LESSnaEQUALqd GREATERnd PRECEDES",
      "d SUCCEEDSaDOES NOT PRECEDE OR EQUALc SUCCEEDoaNOT SQUARE IMAGE OF OR EQUAL TOc ORIGINALq",
      "aSQUARE IMAGE OF OR NOTob ORIGINALraLESS-THAN BUT NOT EQUIVALENTnaGREATERraPRECEDESq",
      "aSUCCEEDSqaNOT NORMAL SUBGROUP OFaDOES NOT CONTAIN AS NORMAL SUBGROUP",
      "aNOT NORMAL SUBGROUP OF OR EQUAL TOaDOES NOT CONTAIN AS NORMAL SUBGROUP OR EQUAL",
      "aVERTICAL ELLIPSISaMIDLINE HORIZONTALnaUP RIGHT DIAGONALnaDOWNp",
      "aELEMENT OF WITH LONG HORIZONTAL STROKEd VERTICAL BAR AT END OFoaSMALL ELEMENTv",
      "aELEMENT OF WITH DOT ABOVEd OVERBARaSMALL ELEMENTpaELEMENT OF WITH UNDERBAR",
      "d TWO HORIZONTAL STROKESaCONTAINS WITH LONG HORIZONTAL STROKEc VERTICAL BAR AT END OFo",
      "aSMALL CONTAINSuaCONTAINS WITH OVERBARaSMALL CONTAINSoaZ NOTATION BAG MEMBERSHIP",
      "aDIAMETER SIGNaELECTRIC ARROWaHOUSEaUP ARROWHEADaDOWNnaPROJECTIVEaPERSPECTIVEaWAVY LINE",
      "aLEFT CEILINGaRIGHTnaLEFT FLOORaRIGHTnaBOTTOM RIGHT CROPb LEFTnaTOP RIGHTnb LEFTn",
      "aREVERSED NOT SIGNaSQUARE LOZENGEaARCaSEGMENTaSECTORaTELEPHONE RECORDER",
      "aPOSITION INDICATORaVIEWDATA SQUAREaPLACE OF INTEREST SIGNaTURNED NOTnaWATCHaHOURGLASS",
      "aTOP LEFT CORNERb RIGHTnaBOTTOM LEFTnb RIGHTnaTOP HALF INTEGRALaBOTTOMoaFROWNaSMILE",
      "aUP ARROWHEAD BETWEEN TWO HORIZONTAL BARSaOPTION KEYaERASE TO THE RIGHT",
      "aX IN A RECTANGLE BOXaKEYBOARDaLEFT-POINTING ANGLE BRACKETaRIGHTpaERASE TO THE LEFT",
      "aBENZENE RINGaCYLINDRICITYaALL AROUND-PROFILEaSYMMETRYaTOTAL RUNOUTaDIMENSION ORIGIN",
      "aCONICAL TAPERaSLOPEaCOUNTERBOREaCOUNTERSINKaAPL FUNCTIONAL SYMBOL I-BEAMd SQUISH QUAD",
      "d QUAD EQUALe DIVIDEe DIAMONDe JOTe CIRCLEd CIRCLE STILEe JOTd SLASH BARd BACKSLASHn",
      "d QUAD SLASHe BACKSLASHe LESS-THANe GREATERnd LEFTWARDS VANEd RIGHTWARDSn",
      "d QUAD LEFTWARDS ARROWe RIGHTWARDSnd CIRCLE BACKSLASHd DOWN TACK UNDERBARd DELTA STILE",
      "d QUAD DOWN CARETe DELTAd DOWN TACK JOTd UPWARDS VANEd QUAD UPWARDS ARROW",
      "d UP TACK OVERBARd DEL STILEd QUAD UP CARETe DELd UP TACK JOTd DOWNWARDS VANE",
      "d QUAD DOWNWARDS ARROWd QUOTE UNDERBARd DELTAnd DIAMONDnd JOTnd CIRCLEnd UP SHOE JOT",
      "d QUOTE QUADd CIRCLE STARd QUAD COLONd UP TACK DIAERESISd DELnd STARnd JOTnd CIRCLEn",
      "d DOWN SHOE STILEd LEFTod TILDE DIAERESISd GREATER-THANnd COMMA BARd DEL TILDEd ZILDE",
      "d STILE TILDEd SEMICOLON UNDERBARd QUAD NOT EQUALe QUESTIONd DOWN CARET TILDEd UPod IOTA",
      "d RHOd OMEGAd ALPHA UNDERBARd EPSILONnd IOTAnd OMEGAnd ALPHAaNOT CHECK MARK",
      "aRIGHT ANGLE WITH DOWNWARDS ZIGZAG ARROWaSHOULDERED OPEN BOXaBELL SYMBOL",
      "aVERTICAL LINE WITH MIDDLE DOTaINSERTION SYMBOLaCONTINUOUS UNDERLINEnaDISCONTINUOUSo",
      "aEMPHASISnaCOMPOSITIONnaWHITE SQUARE WITH CENTRE VERTICAL LINEaENTER SYMBOL",
      "aALTERNATIVE KEYnaHELMnaCIRCLED HORIZONTAL BAR WITH NOTCHb TRIANGLE DOWN",
      "aBROKEN CIRCLE WITH NORTHWEST ARROWaUNDO SYMBOLaMONOSTABLEnaHYSTERESISn",
      "aOPEN-CIRCUIT-OUTPUT H-TYPEnd LoaPASSIVE-PULL-DOWN-OUTPUTnc-UPo",
      "aDIRECT CURRENT SYMBOL FORM TWOaSOFTWARE-FUNCTION SYMBOLaAPL FUNCTIONAL SYMBOL QUAD",
      "aDECIMAL SEPARATOR KEY SYMBOLaPREVIOUS PAGEaNEXTnaPRINT SCREEN SYMBOLaCLEARo",
      "aLEFT PARENTHESIS UPPER HOOKc EXTENSIONc LOWER HOOKaRIGHT PARENTHESIS UPPERnc EXTENSION",
      "c LOWER HOOKaLEFT SQUARE BRACKET UPPER CORNERd EXTENSIONd LOWER CORNER",
      "aRIGHT SQUARE BRACKET UPPERnd EXTENSIONd LOWER CORNERaLEFT CURLY BRACKET UPPER HOOK",
      "d MIDDLE PIECEd LOWER HOOKaCURLY BRACKET EXTENSIONaRIGHT CURLY BRACKET UPPER HOOK",
      "d MIDDLE PIECEd LOWER HOOKaINTEGRAL EXTENSIONaHORIZONTAL LINEn",
      "aUPPER LEFT OR LOWER RIGHT CURLY BRACKET SECTIONb RIGHT OR LOWER LEFTpaSUMMATION TOP",
      "b BOTTOMaTOP SQUARE BRACKETaBOTTOMod OVER TOP SQUARE BRACKETaRADICAL SYMBOL BOTTOM",
      "aLEFT VERTICAL BOX LINEaRIGHTpaHORIZONTAL SCAN LINE-1d-3d-7d-9",
      "aDENTISTRY SYMBOL LIGHT VERTICAL AND TOP RIGHTf BOTTOMne WITH CIRCLE",
      "d DOWN AND HORIZONTALod UPqd VERTICAL WITH TRIANGLEd DOWN AND HORIZONTALod UPq",
      "d VERTICAL AND WAVEd DOWN AND HORIZONTAL WITHnd UPqd DOWN AND HORIZONTALd UPo",
      "d VERTICAL AND TOP LEFTf BOTTOMnaSQUARE FOOTaRETURN SYMBOLaEJECTnaVERTICAL LINE EXTENSION",
      "aMETRICAL BREVEb LONG OVER SHORTb SHORT OVER LONGb LONG OVER TWO SHORTS",
      "b TWO SHORTS OVER LONGd JOINEDb TRISEMEb TETRASEMEb PENTASEMEaEARTH GROUNDaFUSE",
      "aTOP PARENTHESISaBOTTOMnaTOP CURLY BRACKETaBOTTOMoaTOP TORTOISE SHELLnaBOTTOMp",
      "aWHITE TRAPEZIUMaBENZENE RING WITH CIRCLEaSTRAIGHTNESSaFLATNESSaAC CURRENT",
      "aELECTRICAL INTERSECTIONaDECIMAL EXPONENT SYMBOLaBLACK RIGHT-POINTING DOUBLE TRIANGLE",
      "b LEFTpb UPpb DOWNpb RIGHT-POINTING DOUBLE TRIANGLE WITH VERTICAL BARb LEFTs",
      "b RIGHT-POINTING TRIANGLE WITH DOUBLEoaALARM CLOCKaSTOPWATCHaTIMER CLOCK",
      "aHOURGLASS WITH FLOWING SANDaBLACK MEDIUM LEFT-POINTING TRIANGLEc RIGHToc UPoc DOWNo",
      "aDOUBLE VERTICAL BARaBLACK SQUARE FOR STOPb CIRCLE FOR RECORDaPOWER SYMBOLb ON-OFFncn",
      "b SLEEPnaOBSERVER EYEnaSYMBOL FOR NULLc START OF HEADINGe TEXTc ENDoe TRANSMISSION",
      "c ENQUIRYc ACKNOWLEDGEc BELLc BACKSPACEc HORIZONTAL TABULATIONc LINE FEED",
      "c VERTICAL TABULATIONc FORM FEEDc CARRIAGE RETURNc SHIFT OUTd INc DATA LINK ESCAPE",
      "c DEVICE CONTROL ONEe TWOe THREEe FOURc NEGATIVE ACKNOWLEDGEc SYNCHRONOUS IDLE",
      "c END OF TRANSMISSION BLOCKc CANCELc END OF MEDIUMc SUBSTITUTEc ESCAPEc FILE SEPARATOR",
      "c GROUPnc RECORDnc UNITnc SPACEc DELETEaBLANK SYMBOLaOPEN BOXaSYMBOL FOR NEWLINE",
      "c DELETE FORM TWOc SUBSTITUTEo"]⟩,
   ⟨0x2440, ["aOCR HOOKb CHAIRb FORKb INVERTEDnb BELT BUCKLEb BOW TIE",
      "b BRANCH BANK IDENTIFICATIONb AMOUNT OF CHECKb DASHb CUSTOMER ACCOUNT NUMBER",
      "b DOUBLE BACKSLASH"]⟩,
   ⟨0x2460, ["aCIRCLED DIGIT ONEc TWOc THREEc FOURc FIVEc SIXc SEVENc EIGHTc NINEb NUMBER TEN",
      "c ELEVENc TWELVEc THIRTEENc FOURTEENc FIFTEENc SIXTEENc SEVENTEENc EIGHTEENc NINETEEN",
      "c TWENTYaPARENTHESIZED DIGIT ONEc TWOc THREEc FOURc FIVEc SIXc SEVENc EIGHTc NINE",
      "b NUMBER TENc ELEVENc TWELVEc THIRTEENc FOURTEENc FIFTEENc SIXTEENc SEVENTEENc EIGHTEEN",
      "c NINETEENc TWENTYaDIGIT ONE FULL STOPb TWOob THREEob FOURob FIVEob SIXob SEVENob EIGHTo",
      "b NINEoaNUMBER TENob ELEVENob TWELVEob THIRTEENob FOURTEENob FIFTEENob SIXTEENo",
      "b SEVENTEENob EIGHTEENob NINETEENob TWENTYoaPARENTHESIZED LATIN SMALL LETTER Ae Be Ce D",
      "e Ee Fe Ge He Ie Je Ke Le Me Ne Oe Pe Qe Re Se Te Ue Ve We Xe Ye Z",
      "aCIRCLED LATIN CAPITAL LETTER Ae Be Ce De Ee Fe Ge He Ie Je Ke Le Me Ne Oe Pe Qe Re Se T",
      "e Ue Ve We Xe Ye Zc SMALL LETTER Ae Be Ce De Ee Fe Ge He Ie Je Ke Le Me Ne Oe Pe Qe Re S",
      "e Te Ue Ve We Xe Ye Zb DIGIT ZEROaNEGATIVE CIRCLED NUMBER ELEVENd TWELVEd THIRTEEN",
      "d FOURTEENd FIFTEENd SIXTEENd SEVENTEENd EIGHTEENd NINETEENd TWENTY",
      "aDOUBLE CIRCLED DIGIT ONEd TWOd THREEd FOURd FIVEd SIXd SEVENd EIGHTd NINEc NUMBER TEN",
      "aNEGATIVE CIRCLED DIGIT ZEROaBOX DRAWINGS LIGHT HORIZONTALc HEAVYnc LIGHT VERTICAL",
      "c HEAVYnc LIGHT TRIPLE DASH HORIZONTALc HEAVYpc LIGHT TRIPLE DASH VERTICALc HEAVYp",
      "c LIGHT QUADRUPLE DASH HORIZONTALc HEAVYpc LIGHT QUADRUPLE DASH VERTICALc HEAVYp",
      "c LIGHT DOWN AND RIGHTc DOWN LIGHT AND RIGHT HEAVYd HEAVY AND RIGHT LIGHT",
      "c HEAVY DOWN AND RIGHTc LIGHT DOWN AND LEFTc DOWN LIGHT AND LEFT HEAVY",
      "d HEAVY AND LEFT LIGHTc HEAVY DOWN AND LEFTc LIGHT UP AND RIGHTc UP LIGHT AND RIGHT HEAVY",
      "d HEAVY AND RIGHT LIGHTc HEAVY UP AND RIGHTc LIGHT UP AND LEFTc UP LIGHT AND LEFT HEAVY",
      "d HEAVY AND LEFT LIGHTc HEAVY UP AND LEFTc LIGHT VERTICAL AND RIGHT",
      "c VERTICAL LIGHT AND RIGHT HEAVYc UP HEAVY AND RIGHT DOWN LIGHTc DOWN HEAVY AND RIGHT UPn",
      "c VERTICAL HEAVY AND RIGHTnc DOWN LIGHT AND RIGHT UP HEAVYc UP LIGHT AND RIGHT DOWNn",
      "c HEAVY VERTICAL AND RIGHTc LIGHT VERTICAL AND LEFTc VERTICAL LIGHT AND LEFT HEAVY",
      "c UP HEAVY AND LEFT DOWN LIGHTc DOWN HEAVY AND LEFT UPnc VERTICAL HEAVY AND LEFTn",
      "c DOWN LIGHT AND LEFT UP HEAVYc UP LIGHT AND LEFT DOWNnc HEAVY VERTICAL AND LEFT",
      "c LIGHT DOWN AND HORIZONTALc LEFT HEAVY AND RIGHT DOWN LIGHTc RIGHT HEAVY AND LEFTo",
      "c DOWN LIGHT AND HORIZONTAL HEAVYd HEAVY AND HORIZONTAL LIGHT",
      "c RIGHT LIGHT AND LEFT DOWN HEAVYc LEFT LIGHT AND RIGHToc HEAVY DOWN AND HORIZONTAL",
      "c LIGHT UPoc LEFT HEAVY AND RIGHT UP LIGHTc RIGHT HEAVY AND LEFTo",
      "c UP LIGHT AND HORIZONTAL HEAVYd HEAVY AND HORIZONTAL LIGHT",
      "c RIGHT LIGHT AND LEFT UP HEAVYc LEFT LIGHT AND RIGHToc HEAVY UP AND HORIZONTAL",
      "c LIGHT VERTICALoc LEFT HEAVY AND RIGHT VERTICAL LIGHTc RIGHT HEAVY AND LEFTo",
      "c VERTICAL LIGHT AND HORIZONTAL HEAVYc UP HEAVY AND DOWN HORIZONTAL LIGHT",
      "c DOWN HEAVY AND UPoc VERTICAL HEAVY ANDoc LEFT UP HEAVY AND RIGHT DOWNn",
      "c RIGHT UP HEAVY AND LEFToc LEFT DOWN HEAVY AND RIGHT UPnc RIGHT DOWN HEAVY AND LEFTo",
      "c DOWN LIGHT AND UP HORIZONTAL HEAVYc UP LIGHT AND DOWNoc RIGHT LIGHT AND LEFT VERTICALn",
      "c LEFT LIGHT AND RIGHToc HEAVY VERTICAL AND HORIZONTALc LIGHT DOUBLE DASHnc HEAVYp",
      "c LIGHT DOUBLE DASH VERTICALc HEAVYpc DOUBLE HORIZONTALd VERTICAL",
      "c DOWN SINGLE AND RIGHT DOUBLEd DOUBLE AND RIGHT SINGLEc DOUBLE DOWN AND RIGHT",
      "c DOWN SINGLE AND LEFT DOUBLEd DOUBLE AND LEFT SINGLEc DOUBLE DOWN AND LEFT",
      "c UP SINGLE AND RIGHT DOUBLEd DOUBLE AND RIGHT SINGLEc DOUBLE UP AND RIGHT",
      "c UP SINGLE AND LEFT DOUBLEd DOUBLE AND LEFT SINGLEc DOUBLE UP AND LEFT",
      "c VERTICAL SINGLE AND RIGHT DOUBLEd DOUBLE AND RIGHT SINGLEc DOUBLE VERTICAL AND RIGHT",
      "c VERTICAL SINGLE AND LEFT DOUBLEd DOUBLE AND LEFT SINGLEc DOUBLE VERTICAL AND LEFT",
      "c DOWN SINGLE AND HORIZONTAL DOUBLEd DOUBLE AND HORIZONTAL SINGLE",
      "c DOUBLE DOWN AND HORIZONTALc UP SINGLE AND HORIZONTAL DOUBLE",
      "d DOUBLE AND HORIZONTAL SINGLEc DOUBLE UP AND HORIZONTAL",
      "c VERTICAL SINGLE AND HORIZONTAL DOUBLEd DOUBLE AND HORIZONTAL SINGLE",
      "c DOUBLE VERTICAL AND HORIZONTALc LIGHT ARC DOWN AND RIGHTg LEFTe UPog RIGHT",
      "d DIAGONAL UPPER RIGHT TO LOWER LEFTf LEFT TO LOWER RIGHTe CROSSd LEFTd UPd RIGHTd DOWN",
      "c HEAVY LEFTd UPd RIGHTd DOWNc LIGHT LEFT AND HEAVY RIGHTd UP AND HEAVY DOWN",
      "c HEAVY LEFT AND LIGHT RIGHTd UP AND LIGHT DOWNaUPPER HALF BLOCKaLOWER ONE EIGHTHn",
      "c QUARTERnb THREE EIGHTHSnb HALFnb FIVE EIGHTHSnb THREE QUARTERSnb SEVEN EIGHTHSnaFULLn",
      "aLEFT SEVEN EIGHTHSnb THREE QUARTERSnb FIVE EIGHTHSnb HALFnb THREE EIGHTHSnb ONE QUARTERn",
      "c EIGHTHnaRIGHT HALFnaLIGHT SHADEaMEDIUMnaDARKnaUPPER ONE EIGHTH BLOCKaRIGHTp",
      "aQUADRANT LOWER LEFTc RIGHTb UPPER LEFTd AND LOWER LEFT AND LOWER RIGHTfn",
      "e UPPER RIGHT AND LOWER LEFTi RIGHTcnd AND LOWER LEFTg AND LOWER RIGHTaBLACK SQUARE",
      "aWHITEnc WITH ROUNDED CORNERSc CONTAINING BLACK SMALL SQUAREaSQUARE WITH HORIZONTAL FILL",
      "c VERTICALnc ORTHOGONAL CROSSHATCHnc UPPER LEFT TO LOWER RIGHTnd RIGHT TO LOWER LEFTn",
      "c DIAGONAL CROSSHATCHnaBLACK SMALL SQUAREaWHITEoaBLACK RECTANGLEaWHITEnaBLACK VERTICALn",
      "aWHITEoaBLACK PARALLELOGRAMaWHITEnaBLACK UP-POINTING TRIANGLEaWHITEp",
      "aBLACK UP-POINTING SMALLnaWHITEqaBLACK RIGHT-POINTINGnaWHITEpaBLACK RIGHT-POINTING SMALLn",
      "aWHITEqaBLACK RIGHT-POINTING POINTERaWHITEpaBLACK DOWN-POINTING TRIANGLEaWHITEp",
      "aBLACK DOWN-POINTING SMALLnaWHITEqaBLACK LEFT-POINTINGnaWHITEpaBLACK LEFT-POINTING SMALLn",
      "aWHITEqaBLACK LEFT-POINTING POINTERaWHITEpaBLACK DIAMONDaWHITEn",
      "c CONTAINING BLACK SMALL DIAMONDaFISHEYEaLOZENGEaWHITE CIRCLEaDOTTEDn",
      "aCIRCLE WITH VERTICAL FILLaBULLSEYEaBLACK CIRCLEaCIRCLE WITH LEFT HALF BLACKc RIGHTo",
      "c LOWERoc UPPERod RIGHT QUADRANTnc ALL BUT UPPER LEFToaLEFT HALF BLACK CIRCLEaRIGHTp",
      "aINVERSE BULLETb WHITE CIRCLEaUPPER HALF INVERSEoaLOWERqaUPPER LEFT QUADRANT CIRCULAR ARC",
      "b RIGHTpaLOWERqb LEFTpaUPPER HALF CIRCLEaLOWERoaBLACK LOWER RIGHT TRIANGLEc LEFTnb UPPERo",
      "c RIGHTnaWHITE BULLETaSQUARE WITH LEFT HALF BLACKc RIGHToc UPPER LEFT DIAGONALo",
      "c LOWER RIGHTpaWHITE SQUARE WITH VERTICAL BISECTING LINEb UP-POINTING TRIANGLE WITH DOT",
      "aUP-POINTING TRIANGLE WITH LEFT HALF BLACKe RIGHToaLARGE CIRCLE",
      "aWHITE SQUARE WITH UPPER LEFT QUADRANTd LOWERoe RIGHTnd UPPERob CIRCLE WITH UPPER LEFTn",
      "d LOWERoe RIGHTnd UPPERoaUPPER LEFT TRIANGLEb RIGHTnaLOWER LEFTnaWHITE MEDIUM SQUARE",
      "aBLACKoaWHITE MEDIUM SMALLnaBLACKpaLOWER RIGHT TRIANGLEaBLACK SUN WITH RAYSaCLOUD",
      "aUMBRELLAaSNOWMANaCOMETaBLACK STARaWHITEnaLIGHTNINGaTHUNDERSTORMaSUNaASCENDING NODE",
      "aDESCENDINGnaCONJUNCTIONaOPPOSITIONaBLACK TELEPHONEaWHITEnaBALLOT BOXc WITH CHECKd X",
      "aSALTIREaUMBRELLA WITH RAIN DROPSaHOT BEVERAGEaWHITE SHOGI PIECEaBLACKoaSHAMROCK",
      "aREVERSED ROTATED FLORAL HEART BULLETaBLACK LEFT POINTING INDEXb RIGHToaWHITE LEFTob UPo",
      "b RIGHTob DOWNoaSKULL AND CROSSBONESaCAUTION SIGNaRADIOACTIVEnaBIOHAZARDnaCADUCEUSaANKH",
      "aORTHODOX CROSSaCHI RHOaCROSS OF LORRAINEc JERUSALEMaSTAR AND CRESCENTaFARSI SYMBOL",
      "aADI SHAKTIaHAMMER AND SICKLEaPEACE SYMBOLaYIN YANGaTRIGRAM FOR HEAVENc LAKEc FIRE",
      "c THUNDERc WINDc WATERc MOUNTAINc EARTHaWHEEL OF DHARMAaWHITE FROWNING FACEb SMILINGn",
      "aBLACKoaWHITE SUN WITH RAYSaFIRST QUARTER MOONaLASToaMERCURYaFEMALE SIGNaEARTHaMALE SIGN",
      "aJUPITERaSATURNaURANUSaNEPTUNEaPLUTOaARIESaTAURUSaGEMINIaCANCERaLEOaVIRGOaLIBRAaSCORPIUS",
      "aSAGITTARIUSaCAPRICORNaAQUARIUSaPISCESaWHITE CHESS KINGc QUEENc ROOKc BISHOPc KNIGHT",
      "c PAWNaBLACK CHESS KINGc QUEENc ROOKc BISHOPc KNIGHTc PAWNb SPADE SUITaWHITE HEARTn",
      "b DIAMONDnaBLACK CLUBnaWHITE SPADEnaBLACK HEARTnb DIAMONDnaWHITE CLUBnaHOT SPRINGS",
      "aQUARTER NOTEaEIGHTHnaBEAMED EIGHTH NOTESb SIXTEENTHnaMUSIC FLAT SIGNb NATURALnb SHARPn",
      "aWEST SYRIAC CROSSaEASToaUNIVERSAL RECYCLING SYMBOLaRECYCLING SYMBOL FOR TYPE-1 PLASTICS",
      "e-2ne-3ne-4ne-5ne-6ne-7nd GENERIC MATERIALSaBLACK UNIVERSAL RECYCLING SYMBOL",
      "aRECYCLED PAPERnaPARTIALLY-RECYCLEDoaPERMANENT PAPER SIGNaWHEELCHAIR SYMBOLaDIE FACE-1c-2",
      "c-3c-4c-5c-6aWHITE CIRCLE WITH DOT RIGHTd TWO DOTSaBLACK CIRCLE WITH WHITE DOT RIGHT",
      "d TWO WHITE DOTSaMONOGRAM FOR YANGc YINaDIGRAM FOR GREATER YANGc LESSER YINd YANG",
      "c GREATER YINaWHITE FLAGaBLACKnaHAMMER AND PICKaANCHORaCROSSED SWORDS",
      "aSTAFF OF AESCULAPIUSaSCALESaALEMBICaFLOWERaGEARaSTAFF OF HERMESaATOM SYMBOLaFLEUR-DE-LIS",
      "aOUTLINED WHITE STARaTHREE LINES CONVERGING RIGHTd LEFTaWARNING SIGNaHIGH VOLTAGEn",
      "aDOUBLED FEMALEnb MALEnaINTERLOCKED FEMALE ANDoaMALE AND FEMALEnb WITH STROKEn",
      "d AND MALE AND FEMALEnaVERTICAL MALE WITH STROKEnaHORIZONTALqaMEDIUM WHITE CIRCLEb BLACKn",
      "b SMALL WHITEnaMARRIAGE SYMBOLaDIVORCEnaUNMARRIED PARTNERSHIPnaCOFFINaFUNERAL URNaNEUTER",
      "aCERESaPALLASaJUNOaVESTAaCHIRONaBLACK MOON LILITHaSEXTILEaSEMISEXTILEaQUINCUNX",
      "aSESQUIQUADRATEaSOCCER BALLaBASEBALLaSQUARED KEYaWHITE DRAUGHTS MANc KING",
      "aBLACK DRAUGHTS MANc KINGaSNOWMAN WITHOUT SNOWaSUN BEHIND CLOUDaRAINaBLACK SNOWMAN",
      "aTHUNDER CLOUD AND RAINaTURNED WHITE SHOGI PIECEb BLACKoaWHITE DIAMOND IN SQUARE",
      "aCROSSING LANESaDISABLED CARaOPHIUCHUSaPICKaCAR SLIDINGaHELMET WITH WHITE CROSS",
      "aCIRCLED CROSSING LANESaCHAINSaNO ENTRYaALTERNATE ONE-WAY LEFT WAY TRAFFICaBLACK TWOq",
      "aWHITEraBLACK LEFT LANE MERGEaWHITEpaDRIVE SLOW SIGNaHEAVY WHITE DOWN-POINTING TRIANGLE",
      "aLEFT CLOSED ENTRYaSQUARED SALTIREaFALLING DIAGONAL IN WHITE CIRCLE IN BLACK SQUARE",
      "aBLACK TRUCKaRESTRICTED LEFT ENTRY-1d-2aASTRONOMICAL SYMBOL FOR URANUS",
      "aHEAVY CIRCLE WITH STROKE AND TWO DOTS ABOVEaPENTAGRAMaRIGHT-HANDED INTERLACED PENTAGRAM",
      "aLEFTpaINVERTEDnaBLACK CROSS ON SHIELDaSHINTO SHRINEaCHURCHaCASTLEaHISTORIC SITE",
      "aGEAR WITHOUT HUBb WITH HANDLESaMAP SYMBOL FOR LIGHTHOUSEaMOUNTAINaUMBRELLA ON GROUND",
      "aFOUNTAINaFLAG IN HOLEaFERRYaSAILBOATaSQUARE FOUR CORNERSaSKIERaICE SKATE",
      "aPERSON WITH BALLaTENTaJAPANESE BANK SYMBOLaHEADSTONE GRAVEYARDnaFUEL PUMP",
      "aCUP ON BLACK SQUAREaWHITE FLAG WITH HORIZONTAL MIDDLE BLACK STRIPEaBLACK SAFETY SCISSORS",
      "aUPPER BLADEnaBLACKnaLOWER BLADEnaWHITEnb HEAVY CHECK MARKaTELEPHONE LOCATION SIGN",
      "aTAPE DRIVEaAIRPLANEaENVELOPEaRAISED FISTb HANDaVICTORYnaWRITINGnaLOWER RIGHT PENCIL",
      "aPENCILaUPPER RIGHT PENCILaWHITE NIBaBLACKnaCHECK MARKaHEAVY CHECKnaMULTIPLICATION X",
      "aHEAVY MULTIPLICATIONnaBALLOTnaHEAVY BALLOTnaOUTLINED GREEK CROSSaHEAVYoaOPEN CENTREn",
      "aHEAVY OPENoaLATINnaSHADOWED WHITE LATINnaOUTLINEDoaMALTESEnaSTAR OF DAVID",
      "aFOUR TEARDROP-SPOKED ASTERISKb BALLOONoaHEAVY FOURpaFOUR CLUBoaBLACK FOUR POINTED STAR",
      "aWHITEpaSPARKLESaSTRESS OUTLINED WHITE STARaCIRCLEDoaOPEN CENTRE BLACKn",
      "aBLACK CENTRE WHITEnaOUTLINED BLACKnaHEAVY OUTLINEDoaPINWHEELnaSHADOWED WHITEn",
      "aHEAVY ASTERISKaOPEN CENTREnaEIGHT SPOKEDnb POINTED BLACK STARc PINWHEELn",
      "aSIX POINTED BLACKnaEIGHT POINTED RECTILINEARoaHEAVY EIGHTqaTWELVE POINTEDo",
      "aSIXTEEN POINTED ASTERISKaTEARDROP-SPOKEDnaOPEN CENTRE TEARDROPoaHEAVYp",
      "aSIX PETALLED BLACK AND WHITE FLORETTEaBLACKnaWHITEnaEIGHT PETALLED OUTLINED BLACKn",
      "aCIRCLED OPEN CENTRE EIGHT POINTED STARaHEAVY TEARDROP-SPOKED PINWHEEL ASTERISKaSNOWFLAKE",
      "aTIGHT TRIFOLIATE SNOWFLAKEaHEAVY CHEVRONnaSPARKLEaHEAVY SPARKLEaBALLOON-SPOKED ASTERISK",
      "aEIGHT TEARDROP-SPOKED PROPELLERnaHEAVY EIGHTqaCROSS MARKaSHADOWED WHITE CIRCLE",
      "aNEGATIVE SQUARED CROSS MARKaLOWER RIGHT DROP-SHADOWED WHITE SQUAREaUPPERr",
      "aLOWER RIGHT SHADOWEDoaUPPERqaBLACK QUESTION MARK ORNAMENTaWHITEpb EXCLAMATIONo",
      "aBLACK DIAMOND MINUS WHITE XaHEAVY EXCLAMATION MARK SYMBOLaLIGHT VERTICAL BARaMEDIUMo",
      "aHEAVYob SINGLE TURNED COMMA QUOTATION MARK ORNAMENTcqb DOUBLE TURNEDqcqb LOW SINGLEq",
      "c DOUBLEqaCURVED STEM PARAGRAPH SIGNnaHEAVY EXCLAMATION MARKnb HEARTpb BLACK HEART",
      "aROTATED HEAVY BLACK HEART BULLETaFLORAL HEARTaROTATED FLORAL HEART BULLET",
      "aMEDIUM LEFT PARENTHESIS ORNAMENTb RIGHTob FLATTENED LEFToc RIGHTo",
      "b LEFT-POINTING ANGLE BRACKETnb RIGHTqaHEAVY LEFT-POINTING ANGLE QUOTATION MARKnb RIGHTr",
      "b LEFT-POINTING ANGLE BRACKETnb RIGHTqaLIGHT LEFT TORTOISE SHELLob RIGHTq",
      "aMEDIUM LEFT CURLYob RIGHTpaDINGBAT NEGATIVE CIRCLED DIGIT ONEe TWOe THREEe FOURe FIVE",
      "e SIXe SEVENe EIGHTe NINEd NUMBER TENb CIRCLED SANS-SERIF DIGIT ONEf TWOf THREEf FOUR",
      "f FIVEf SIXf SEVENf EIGHTf NINEe NUMBER TENb NEGATIVE CIRCLED SANS-SERIF DIGIT ONEg TWO",
      "g THREEg FOURg FIVEg SIXg SEVENg EIGHTg NINEf NUMBER TEN",
      "aHEAVY WIDE-HEADED RIGHTWARDS ARROWb PLUS SIGNb MINUSnb DIVISIONnb SOUTH EAST ARROW",
      "b RIGHTWARDSnb NORTH EASTnaDRAFTING POINT RIGHTWARDSnaHEAVY ROUND-TIPPEDo",
      "aTRIANGLE-HEADEDoaHEAVY TRIANGLEpaDASHEDqaHEAVY DASHEDqaBLACKo",
      "aTHREE-D TOP-LIGHTED RIGHTWARDS ARROWHEADc BOTTOMpaBLACKo",
      "aHEAVY BLACK CURVED DOWNWARDS AND RIGHTWARDS ARROWd UPWARDSpaSQUAT BLACKo",
      "aHEAVY CONCAVE-POINTEDpaRIGHT-SHADED WHITEoaLEFTqaBACK-TILTED SHADOWEDpaFRONTr",
      "aHEAVY LOWER RIGHT-SHADOWEDpb UPPERraNOTCHED LOWERraCURLY LOOP",
      "aNOTCHED UPPER RIGHT-SHADOWED WHITE RIGHTWARDS ARROWaCIRCLED HEAVYpaWHITE-FEATHEREDo",
      "aBLACK-FEATHERED SOUTH EASTnc RIGHTWARDSnc NORTH EASTnaHEAVY BLACK-FEATHERED SOUTHo",
      "d RIGHTWARDSnd NORTH EASTnaTEARDROP-BARBED RIGHTWARDSnaHEAVY TEARDROP-SHANKEDo",
      "aWEDGE-TAILEDoaHEAVY WEDGEpaOPEN-OUTLINEDoaDOUBLE CURLY LOOPaTHREE DIMENSIONAL ANGLE",
      "aWHITE TRIANGLE CONTAINING SMALL WHITE TRIANGLEaPERPENDICULARaOPEN SUBSETb SUPERSET",
      "aLEFT S-SHAPED BAG DELIMITERaRIGHTqaOR WITH DOT INSIDEaREVERSE SOLIDUS PRECEDING SUBSET",
      "aSUPERSET PRECEDING SOLIDUSaVERTICAL BAR WITH HORIZONTAL STROKE",
      "aMATHEMATICAL RISING DIAGONALaLONG DIVISIONaMATHEMATICAL FALLING DIAGONAL",
      "aSQUARED LOGICAL ANDc ORaWHITE DIAMOND WITH CENTRED DOTaAND WITHn",
      "aELEMENT OF OPENING UPWARDSaLOWER RIGHT CORNER WITH DOTaUPPER LEFTpaLEFT OUTER JOIN",
      "aRIGHToaFULLoaLARGE UP TACKb DOWNnaLEFT AND RIGHT DOUBLE TURNSTILEd TACKb MULTIMAP",
      "aLONG RIGHT TACKb LEFTnaUP TACK WITH CIRCLE ABOVEaLOZENGE DIVIDED BY HORIZONTAL RULE",
      "aWHITE CONCAVE-SIDED DIAMONDe WITH LEFTWARDS TICKf RIGHTWARDSnb SQUARE WITH LEFTWARDSn",
      "d RIGHTWARDSnaMATHEMATICAL LEFT WHITE SQUARE BRACKETb RIGHTpb LEFT ANGLEnb RIGHTo",
      "b LEFT DOUBLEob RIGHTpb LEFT WHITE TORTOISE SHELLnb RIGHTqb LEFT FLATTENED PARENTHESIS",
      "b RIGHToaUPWARDS QUADRUPLE ARROWaDOWNWARDSoaANTICLOCKWISE GAPPED CIRCLEnaCLOCKWISEp",
      "aRIGHT ARROW WITH CIRCLED PLUSaLONG LEFTWARDS ARROWb RIGHTWARDSnb LEFT RIGHTn",
      "b LEFTWARDS DOUBLEnb RIGHTWARDSob LEFT RIGHTob LEFTWARDS ARROW FROM BARb RIGHTWARDSp",
      "b LEFTWARDS DOUBLEpb RIGHTWARDSqc SQUIGGLE ARROWaBRAILLE PATTERN BLANKc DOTS-1d-2d-12d-3",
      "d-13d-23d-123d-4d-14d-24d-124d-34d-134d-234d-1234d-5d-15d-25d-125d-35d-135d-235d-1235d-45",
      "d-145d-245d-1245d-345d-1345d-2345d-12345d-6d-16d-26d-126d-36d-136d-236d-1236d-46d-146",
      "d-246d-1246d-346d-1346d-2346d-12346d-56d-156d-256d-1256d-356d-1356d-2356d-12356d-456",
      "d-1456d-2456d-12456d-3456d-13456d-23456d-123456d-7d-17d-27d-127d-37d-137d-237d-1237d-47",
      "d-147d-247d-1247d-347d-1347d-2347d-12347d-57d-157d-257d-1257d-357d-1357d-2357d-12357d-457",
      "d-1457d-2457d-12457d-3457d-13457d-23457d-123457d-67d-167d-267d-1267d-367d-1367d-2367",
      "d-12367d-467d-1467d-2467d-12467d-3467d-13467d-23467d-123467d-567d-1567d-2567d-12567d-3567",
      "d-13567d-23567d-123567d-4567d-14567d-24567d-124567d-34567d-134567d-234567d-1234567d-8d-18",
      "d-28d-128d-38d-138d-238d-1238d-48d-148d-248d-1248d-348d-1348d-2348d-12348d-58d-158d-258",
      "d-1258d-358d-1358d-2358d-12358d-458d-1458d-2458d-12458d-3458d-13458d-23458d-123458d-68",
      "d-168d-268d-1268d-368d-1368d-2368d-12368d-468d-1468d-2468d-12468d-3468d-13468d-23468",
      "d-123468d-568d-1568d-2568d-12568d-3568d-13568d-23568d-123568d-4568d-14568d-24568d-124568",
      "d-34568d-134568d-234568d-1234568d-78d-178d-278d-1278d-378d-1378d-2378d-12378d-478d-1478",
      "d-2478d-12478d-3478d-13478d-23478d-123478d-578d-1578d-2578d-12578d-3578d-13578d-23578",
      "d-123578d-4578d-14578d-24578d-124578d-34578d-134578d-234578d-1234578d-678d-1678d-2678",
      "d-12678d-3678d-13678d-23678d-123678d-4678d-14678d-24678d-124678d-34678d-134678d-234678",
      "d-1234678d-5678d-15678d-25678d-125678d-35678d-135678d-235678d-1235678d-45678d-145678",
      "d-245678d-1245678d-345678d-1345678d-2345678d-12345678",
      "aRIGHTWARDS TWO-HEADED ARROW WITH VERTICAL STROKEf DOUBLEoaLEFTWARDS DOUBLE ARROW WITHo",
      "aRIGHTWARDSraLEFT RIGHTraRIGHTWARDS TWO-HEADED ARROW FROM BARaLEFTWARDS DOUBLEp",
      "aRIGHTWARDSqaDOWNWARDS ARROW WITH HORIZONTAL STROKEaUPWARDSqb TRIPLE ARROWaDOWNWARDSo",
      "aLEFTWARDS DOUBLE DASHnaRIGHTWARDSpaLEFTWARDS TRIPLEoaRIGHTWARDSpb TWO-HEADEDp",
      "b ARROW WITH DOTTED STEMaUPWARDS ARROW TO BARaDOWNWARDSp",
      "aRIGHTWARDS ARROW WITH TAIL WITH VERTICAL STROKEf DOUBLEob TWO-HEADED ARROW WITH TAIL",
      "g WITH VERTICAL STROKEh DOUBLEoaLEFTWARDS ARROW-TAILaRIGHTWARDSoaLEFTWARDS DOUBLEo",
      "aRIGHTWARDSpaLEFTWARDS ARROW TO BLACK DIAMONDaRIGHTWARDSqaLEFTWARDS ARROW FROM BARp",
      "aRIGHTWARDSsaNORTH WEST AND SOUTH EAST ARROWb EAST AND SOUTH WESTnb WEST ARROW WITH HOOK",
      "b EASTpaSOUTHqb WESTpaNORTH WEST ARROW AND NORTH EAST ARROWb EAST ARROW AND SOUTHo",
      "aSOUTH EAST ARROW AND SOUTH WESTnb WEST ARROW AND NORTHo",
      "aRISING DIAGONAL CROSSING FALLING DIAGONALaFALLING DIAGONAL CROSSING RISINGn",
      "aSOUTH EAST ARROW CROSSING NORTH EAST ARROWaNORTH EAST ARROW CROSSING SOUTHo",
      "aFALLING DIAGONAL CROSSING NORTHoaRISING DIAGONAL CROSSING SOUTHo",
      "aNORTH EAST ARROW CROSSING NORTH WESTnb WEST ARROW CROSSING NORTH EASTn",
      "aWAVE ARROW POINTING DIRECTLY RIGHTaARROW POINTING RIGHTWARDS THEN CURVING UPWARDS",
      "f DOWNWARDSc DOWNWARDS THEN CURVING LEFTWARDSf RIGHTWARDSaRIGHT-SIDE ARC CLOCKWISE ARROW",
      "aLEFT-SIDE ARC ANTICLOCKWISEnaTOPpaBOTTOMpaTOP ARC CLOCKWISE ARROW WITH MINUS",
      "c ANTICLOCKWISE ARROW WITH PLUSaLOWER RIGHT SEMICIRCULAR CLOCKWISE ARROW",
      "b LEFT SEMICIRCULAR ANTICLOCKWISEnaANTICLOCKWISE CLOSED CIRCLEnaCLOCKWISEp",
      "aRIGHTWARDS ARROW ABOVE SHORT LEFTWARDSnaLEFTWARDS ARROW ABOVE SHORT RIGHTWARDSn",
      "aSHORT RIGHTWARDS ARROW ABOVE LEFTWARDSnaRIGHTWARDS ARROW WITH PLUS BELOWaLEFTWARDSq",
      "aRIGHTWARDS ARROW THROUGH XaLEFT RIGHT ARROW THROUGH SMALL CIRCLE",
      "aUPWARDS TWO-HEADED ARROW FROMoaLEFT BARB UP RIGHT BARB DOWN HARPOONc DOWN RIGHT BARB UPn",
      "aUP BARB RIGHT DOWN BARB LEFTnc LEFT DOWN BARB RIGHTnaLEFT BARB UP RIGHT BARB UPn",
      "aUP BARB RIGHT DOWN BARB RIGHTnaLEFT BARB DOWN RIGHT BARB DOWNn",
      "aUP BARB LEFT DOWN BARB LEFTnaLEFTWARDS HARPOON WITH BARB UP TO BARaRIGHTWARDSs",
      "aUPWARDS HARPOON WITH BARB RIGHToaDOWNWARDSsaLEFTWARDS HARPOON WITH BARB DOWNo",
      "aRIGHTWARDSsaUPWARDS HARPOON WITH BARB LEFToaDOWNWARDSs",
      "aLEFTWARDS HARPOON WITH BARB UP FROMnaRIGHTWARDSsaUPWARDS HARPOON WITH BARB RIGHTo",
      "aDOWNWARDSsaLEFTWARDS HARPOON WITH BARB DOWNoaRIGHTWARDSsaUPWARDS HARPOON WITH BARB LEFTo",
      "aDOWNWARDSsaLEFTWARDS HARPOON WITH BARB UP ABOVE LEFTWARDS HARPOON WITH BARB DOWN",
      "aUPWARDS HARPOON WITH BARB LEFT BESIDE UPWARDS HARPOON WITH BARB RIGHT",
      "aRIGHTWARDS HARPOON WITH BARB UP ABOVE RIGHTWARDS HARPOON WITH BARB DOWN",
      "aDOWNWARDS HARPOON WITH BARB LEFT BESIDE DOWNWARDS HARPOON WITH BARB RIGHT",
      "aLEFTWARDS HARPOON WITH BARB UP ABOVE RIGHTWARDS HARPOON WITH BARB UP",
      "e DOWN ABOVE RIGHTWARDS HARPOON WITH BARB DOWN",
      "aRIGHTWARDS HARPOON WITH BARB UP ABOVE LEFTWARDS HARPOON WITH BARB UP",
      "e DOWN ABOVE LEFTWARDS HARPOON WITH BARB DOWN",
      "aLEFTWARDS HARPOON WITH BARB UP ABOVE LONG DASHe DOWN BELOWo",
      "aRIGHTWARDS HARPOON WITH BARB UP ABOVEoe DOWN BELOWo",
      "aUPWARDS HARPOON WITH BARB LEFT BESIDE DOWNWARDS HARPOON WITH BARB RIGHT",
      "aDOWNWARDS HARPOON WITH BARB LEFT BESIDE UPWARDSqaRIGHT DOUBLE ARROW WITH ROUNDED HEAD",
      "aEQUALS SIGN ABOVE RIGHTWARDS ARROWaTILDE OPERATORpaLEFTWARDS ARROW ABOVE TILDE OPERATOR",
      "aRIGHTWARDSqd ALMOST EQUAL TOaLESS-THAN ABOVE LEFTWARDS ARROW",
      "aLEFTWARDS ARROW THROUGH LESS-THANaGREATER-THAN ABOVE RIGHTWARDS ARROWaSUBSETp",
      "aLEFTWARDS ARROW THROUGH SUBSETaSUPERSET ABOVE LEFTWARDS ARROWaLEFT FISH TAILaRIGHToaUPo",
      "aDOWNoaTRIPLE VERTICAL BAR DELIMITERaZ NOTATION SPOTc TYPE COLONaLEFT WHITE CURLY BRACKET",
      "aRIGHTpaLEFT WHITE PARENTHESISaRIGHToaZ NOTATION LEFT IMAGE BRACKETc RIGHTo",
      "c LEFT BINDINGnc RIGHToaLEFT SQUARE BRACKET WITH UNDERBARaRIGHTq",
      "aLEFT SQUARE BRACKET WITH TICK IN TOP CORNERaRIGHT SQUARE BRACKET WITH TICK IN BOTTOMn",
      "aLEFTtaRIGHT SQUARE BRACKET WITH TICK IN TOPnaLEFT ANGLE BRACKET WITH DOTaRIGHTq",
      "aLEFT ARC LESS-THAN BRACKETaRIGHT ARC GREATERoaDOUBLE LEFTqb RIGHT ARC LESSo",
      "aLEFT BLACK TORTOISE SHELLnaRIGHTqaDOTTED FENCEaVERTICAL ZIGZAG LINE",
      "aMEASURED ANGLE OPENING LEFTaRIGHT ANGLE VARIANT WITH SQUARE",
      "aMEASURED RIGHT ANGLE WITH DOTaANGLE WITH S INSIDEaACUTE ANGLE",
      "aSPHERICAL ANGLE OPENING LEFTd UPaTURNED ANGLEaREVERSEDnaANGLE WITH UNDERBAR",
      "aREVERSED ANGLEoaOBLIQUE ANGLE OPENING UPd DOWN",
      "aMEASURED ANGLE WITH OPEN ARM ENDING IN ARROW POINTING UP AND RIGHTl LEFTj DOWN AND RIGHT",
      "l LEFTj RIGHT AND UPj LEFToj RIGHT AND DOWNj LEFToaREVERSED EMPTY SET",
      "aEMPTY SET WITH OVERBARd SMALL CIRCLE ABOVEd RIGHT ARROWnd LEFTo",
      "aCIRCLE WITH HORIZONTAL BARaCIRCLED VERTICALnb PARALLELb REVERSE SOLIDUSb PERPENDICULAR",
      "aCIRCLE DIVIDED BY HORIZONTAL BAR AND TOP HALF DIVIDED BY VERTICAL BAR",
      "b WITH SUPERIMPOSED XaCIRCLED ANTICLOCKWISE-ROTATED DIVISION SIGNaUP ARROW THROUGH CIRCLE",
      "aCIRCLED WHITE BULLETbnb LESS-THANb GREATERnaCIRCLE WITH SMALL CIRCLE TO THE RIGHT",
      "c TWO HORIZONTAL STROKESpaSQUARED RISING DIAGONAL SLASHb FALLINGob ASTERISKb SMALL CIRCLE",
      "b SQUAREaTWO JOINED SQUARESaTRIANGLE WITH DOT ABOVEc UNDERBARaS IN TRIANGLE",
      "aTRIANGLE WITH SERIFS AT BOTTOMaRIGHT TRIANGLE ABOVE LEFT TRIANGLE",
      "aLEFT TRIANGLE BESIDE VERTICAL BARaVERTICAL BAR BESIDE RIGHT TRIANGLE",
      "aBOWTIE WITH LEFT HALF BLACKc RIGHToaBLACK BOWTIEaTIMES WITH LEFT HALF BLACKc RIGHTo",
      "aWHITE HOURGLASSaBLACKnaLEFT WIGGLY FENCEaRIGHToaLEFT DOUBLEoaRIGHTpaINCOMPLETE INFINITY",
      "aTIE OVERnaINFINITY NEGATED WITH VERTICAL BARaDOUBLE-ENDED MULTIMAP",
      "aSQUARE WITH CONTOURED OUTLINEaINCREASES ASaSHUFFLE PRODUCT",
      "aEQUALS SIGN AND SLANTED PARALLELf WITH TILDE ABOVEaIDENTICAL TO AND SLANTED PARALLEL",
      "aGLEICH STARKaTHERMODYNAMICaDOWN-POINTING TRIANGLE WITH LEFT HALF BLACKe RIGHTo",
      "aBLACK DIAMOND WITH DOWN ARROWb LOZENGEaWHITE CIRCLE WITH DOWN ARROWaBLACKq",
      "aERROR-BARRED WHITE SQUAREc BLACKnc WHITE DIAMONDc BLACKnc WHITE CIRCLEc BLACKn",
      "aRULE-DELAYEDaREVERSE SOLIDUS OPERATORaSOLIDUS WITH OVERBAR",
      "aREVERSE SOLIDUS WITH HORIZONTAL STROKEaBIG SOLIDUSb REVERSEnaDOUBLE PLUSaTRIPLEn",
      "aLEFT-POINTING CURVED ANGLE BRACKETaRIGHTqaTINYaMINYaN-ARY CIRCLED DOT OPERATORd PLUSn",
      "d TIMESnc UNION OPERATOR WITH DOTf PLUSc SQUARE INTERSECTION OPERATORd UNIONn",
      "aTWO LOGICAL ANDnc ORnaN-ARY TIMESnaMODULO TWO SUMaSUMMATION WITH INTEGRAL",
      "aQUADRUPLE INTEGRAL OPERATORaFINITE PART INTEGRALaINTEGRAL WITH DOUBLE STROKE",
      "b AVERAGE WITH SLASHaCIRCULATION FUNCTIONaANTICLOCKWISE INTEGRATION",
      "aLINE INTEGRATION WITH RECTANGULAR PATH AROUND POLEd SEMICIRCULARpc NOT INCLUDING THEn",
      "aINTEGRAL AROUND A POINT OPERATORaQUATERNION INTEGRALn",
      "aINTEGRAL WITH LEFTWARDS ARROW WITH HOOKc TIMES SIGNc INTERSECTIONc UNIONc OVERBAR",
      "c UNDERBARaJOINaLARGE LEFT TRIANGLE OPERATORaZ NOTATION SCHEMA COMPOSITIONd PIPING",
      "d PROJECTIONaPLUS SIGN WITH SMALL CIRCLE ABOVEd CIRCUMFLEX ACCENTnd TILDEnd DOT BELOW",
      "d TILDEnd SUBSCRIPT TWOd BLACK TRIANGLEaMINUS SIGN WITH COMMA ABOVEd DOT BELOW",
      "d FALLING DOTSd RISINGnaPLUS SIGN IN LEFT HALF CIRCLEd RIGHToaVECTOR OR CROSS PRODUCT",
      "aMULTIPLICATION SIGN WITH DOT ABOVEd UNDERBARaSEMIDIRECT PRODUCT WITH BOTTOM CLOSED",
      "aSMASH PRODUCTaMULTIPLICATION SIGN IN LEFT HALF CIRCLEd RIGHTo",
      "aCIRCLED MULTIPLICATION SIGN WITH CIRCUMFLEX ACCENTaMULTIPLICATION SIGN IN DOUBLE CIRCLE",
      "aCIRCLED DIVISION SIGNaPLUS SIGN IN TRIANGLEaMINUSpaMULTIPLICATIONpaINTERIOR PRODUCT",
      "aRIGHTHAND INTERIORnaZ NOTATION RELATIONAL COMPOSITIONaAMALGAMATION OR COPRODUCT",
      "aINTERSECTION WITH DOTaUNION WITH MINUS SIGNc OVERBARaINTERSECTIONoc LOGICAL AND",
      "aUNION WITH LOGICAL ORb ABOVE INTERSECTIONaINTERSECTION ABOVE UNION",
      "aUNION ABOVE BAR ABOVE INTERSECTIONaINTERSECTION ABOVE BAR ABOVE UNION",
      "aUNION BESIDE AND JOINED WITHnaINTERSECTION BESIDE AND JOINED WITH INTERSECTION",
      "aCLOSED UNION WITH SERIFSb INTERSECTIONoaDOUBLE SQUARE INTERSECTIONc UNION",
      "aCLOSED UNION WITH SERIFS AND SMASH PRODUCTaLOGICAL AND WITH DOT ABOVEb ORp",
      "aDOUBLE LOGICAL ANDc ORaTWO INTERSECTING LOGICAL ANDd ORaSLOPING LARGEnc AND",
      "aLOGICAL OR OVERLAPPING LOGICALnb AND WITH MIDDLE STEMb ORpb AND WITH HORIZONTAL DASH",
      "b ORpb AND WITH DOUBLE OVERBARd UNDERBARd DOUBLEnaSMALL VEE WITHn",
      "aLOGICAL OR WITH DOUBLE OVERBARe UNDERBARaZ NOTATION DOMAIN ANTIRESTRICTIONc RANGEn",
      "aEQUALS SIGN WITH DOT BELOWaIDENTICAL WITH DOT ABOVE",
      "aTRIPLE HORIZONTAL BAR WITH DOUBLE VERTICAL STROKEe TRIPLEoaTILDE OPERATOR WITH DOT ABOVE",
      "d RISING DOTSaSIMILAR MINUS SIMILARaCONGRUENT WITH DOT ABOVEaEQUALS WITH ASTERISK",
      "aALMOST EQUAL TO WITH CIRCUMFLEX ACCENTaAPPROXIMATELY EQUAL OR EQUAL TO",
      "aEQUALS SIGN ABOVE PLUS SIGNaPLUS SIGN ABOVE EQUALSnaEQUALS SIGN ABOVE TILDE OPERATOR",
      "aDOUBLE COLON EQUALaTWO CONSECUTIVE EQUALS SIGNSaTHREEp",
      "aEQUALS SIGN WITH TWO DOTS ABOVE AND TWO DOTS BELOWaEQUIVALENT WITH FOUR DOTS ABOVE",
      "aLESS-THAN WITH CIRCLE INSIDEaGREATERqaLESS-THAN WITH QUESTION MARK ABOVEaGREATERr",
      "aLESS-THAN OR SLANTED EQUAL TOaGREATERraLESS-THAN OR SLANTED EQUAL TO WITH DOT INSIDE",
      "aGREATERuaLESS-THAN OR SLANTED EQUAL TO WITH DOT ABOVEaGREATERu",
      "aLESS-THAN OR SLANTED EQUAL TO WITH DOT ABOVE RIGHT",
      "aGREATER-THAN OR SLANTED EQUAL TO WITH DOT ABOVE LEFTaLESS-THAN OR APPROXIMATEaGREATERp",
      "aLESS-THAN AND SINGLE-LINE NOT EQUAL TOaGREATERtaLESS-THAN AND NOT APPROXIMATEaGREATERq",
      "aLESS-THAN ABOVE DOUBLE-LINE EQUAL ABOVE GREATER-THAN",
      "aGREATER-THAN ABOVE DOUBLE-LINE EQUAL ABOVE LESSnaLESS-THAN ABOVE SIMILAR OR EQUAL",
      "aGREATERraLESS-THAN ABOVE SIMILAR ABOVE GREATER-THAN",
      "aGREATER-THAN ABOVE SIMILAR ABOVE LESSn",
      "aLESS-THAN ABOVE GREATER-THAN ABOVE DOUBLE-LINE EQUALaGREATER-THAN ABOVE LESSr",
      "aLESS-THAN ABOVE SLANTED EQUAL ABOVE GREATER-THAN ABOVE SLANTEDn",
      "aGREATER-THAN ABOVE SLANTED EQUAL ABOVE LESSqaSLANTED EQUAL TO OR LESS-THANe GREATERn",
      "e LESS-THAN WITH DOT INSIDEe GREATERqaDOUBLE-LINE EQUAL TO OR LESS-THANf GREATERn",
      "c SLANTED EQUAL TO OR LESSng GREATERnaSIMILAR OR LESSnc GREATERn",
      "b ABOVE LESS-THAN ABOVE EQUALS SIGNc GREATERqaDOUBLE NESTED LESS-THANc GREATERn",
      "c LESS-THAN WITH UNDERBARaGREATER-THAN OVERLAPPING LESS-THANc BESIDEo",
      "aLESS-THAN CLOSED BY CURVEaGREATERqaLESS-THAN CLOSED BY CURVE ABOVE SLANTED EQUAL",
      "aGREATERtaSMALLER THANaLARGERnaSMALLER THAN OR EQUAL TOaLARGERq",
      "aEQUALS SIGN WITH BUMPY ABOVEaPRECEDES ABOVE SINGLE-LINE EQUALS SIGNaSUCCEEDSr",
      "aPRECEDES ABOVE SINGLE-LINE NOT EQUAL TOaSUCCEEDSsaPRECEDES ABOVE EQUALS SIGNaSUCCEEDSp",
      "aPRECEDES ABOVE NOT EQUAL TOaSUCCEEDSqaPRECEDES ABOVE ALMOSToaSUCCEEDSq",
      "aPRECEDES ABOVE NOTpaSUCCEEDSraDOUBLE PRECEDESb SUCCEEDSaSUBSET WITH DOTaSUPERSETo",
      "aSUBSET WITH PLUS SIGN BELOWaSUPERSETqaSUBSET WITH MULTIPLICATIONoaSUPERSETq",
      "aSUBSET OF OR EQUAL TO WITH DOT ABOVEaSUPERSETtaSUBSET OF ABOVE EQUALS SIGNaSUPERSETq",
      "aSUBSET OF ABOVE TILDE OPERATORaSUPERSETqaSUBSET OF ABOVE ALMOST EQUAL TOaSUPERSETr",
      "aSUBSET OF ABOVE NOToaSUPERSETraSQUARE LEFT OPEN BOX OPERATORb RIGHTpaCLOSED SUBSET",
      "b SUPERSETb SUBSET OR EQUAL TOb SUPERSETpaSUBSET ABOVE SUPERSETaSUPERSET ABOVE SUBSET",
      "aSUBSEToaSUPERSET ABOVE SUPERSETb BESIDE SUBSETc AND JOINED BY DASH WITHn",
      "aELEMENT OF OPENING DOWNWARDSaPITCHFORK WITH TEE TOPaTRANSVERSAL INTERSECTIONaFORKING",
      "aNONFORKINGaSHORT LEFT TACKb DOWNnb UPnaPERPENDICULAR WITH S",
      "aVERTICAL BAR TRIPLE RIGHT TURNSTILEaDOUBLE VERTICAL BAR LEFTnaVERTICAL BAR DOUBLEo",
      "aDOUBLE VERTICALqaLONG DASH FROM LEFT MEMBER OF DOUBLE VERTICAL",
      "aSHORT DOWN TACK WITH OVERBARb UP TACK WITH UNDERBARd ABOVE SHORT DOWN TACKaDOUBLEob UPn",
      "b STROKE NOT SIGNaREVERSED DOUBLEpaDOES NOT DIVIDE WITH REVERSED NEGATION SLASH",
      "aVERTICAL LINE WITH CIRCLE ABOVEe BELOWaDOWN TACKpaPARALLEL WITH HORIZONTAL STROKE",
      "c TILDE OPERATORaTRIPLE VERTICAL BAR BINARY RELATIONd WITH HORIZONTAL STROKE",
      "b COLON OPERATORb NESTED LESS-THANc GREATERnaDOUBLE-LINE SLANTED LESS-THAN OR EQUAL TO",
      "d GREATERqaTRIPLE SOLIDUS BINARY RELATIONaLARGE TRIPLE VERTICAL BAR OPERATOR",
      "aDOUBLE SOLIDUSnaWHITE VERTICAL BARaN-ARY WHITEoaNORTH EAST WHITE ARROWb WESTo",
      "aSOUTH EASTob WESToaLEFT RIGHToaLEFTWARDS BLACKnaUPWARDSoaDOWNWARDSoaNORTH EASTob WESTo",
      "aSOUTH EASTob WESToaLEFT RIGHToaUP DOWNoaRIGHTWARDS ARROW WITH TIP DOWNWARDSe UPWARDS",
      "aLEFTWARDS ARROW WITH TIP DOWNWARDSe UPWARDSaSQUARE WITH TOP HALF BLACKc BOTTOMo",
      "c UPPER RIGHT DIAGONALoc LOWER LEFTpaDIAMOND WITH LEFToc RIGHToc TOPoc BOTTOMo",
      "aDOTTED SQUAREaBLACK LARGEnaWHITEoaBLACK VERY SMALLnaWHITEpaBLACK PENTAGONaWHITEn",
      "b HEXAGONaBLACKnaHORIZONTAL BLACKnaBLACK LARGE CIRCLEb MEDIUM DIAMONDaWHITEo",
      "aBLACK MEDIUM LOZENGEaWHITEoaBLACK SMALL DIAMONDc LOZENGEaWHITEoaBLACK HORIZONTAL ELLIPSE",
      "aWHITEoaBLACK VERTICALnaWHITEoaLEFT ARROW WITH SMALL CIRCLEaTHREE LEFTWARDS ARROWS",
      "aLEFT ARROW WITH CIRCLED PLUSaLONG LEFTWARDS SQUIGGLE ARROW",
      "aLEFTWARDS TWO-HEADED ARROW WITH VERTICAL STROKEf DOUBLEoe FROM BARd TRIPLE DASH ARROW",
      "b ARROW WITH DOTTED STEMd TAIL WITH VERTICAL STROKEf DOUBLEob TWO-HEADED ARROW WITH TAIL",
      "g WITH VERTICAL STROKEh DOUBLEob ARROW THROUGH XaWAVE ARROW POINTING DIRECTLY LEFT",
      "aEQUALS SIGN ABOVE LEFTWARDS ARROWaREVERSE TILDE OPERATORp",
      "aLEFTWARDS ARROW ABOVE REVERSE ALMOST EQUAL TOaRIGHTWARDS ARROW THROUGH GREATER-THAN",
      "d SUPERSETaLEFTWARDS QUADRUPLE ARROWaRIGHTWARDSoaREVERSE TILDE OPERATOR ABOVE RIGHTWARDSn",
      "aRIGHTWARDS ARROW ABOVE REVERSE ALMOST EQUAL TOaTILDE OPERATOR ABOVE LEFTWARDS ARROW",
      "aLEFTWARDS ARROW ABOVE ALMOST EQUAL TOd REVERSE TILDE OPERATORaRIGHTWARDSr",
      "aDOWNWARDS TRIANGLE-HEADED ZIGZAG ARROWaSHORT SLANTED NORTHnb BACKSLANTED SOUTHn",
      "aWHITE MEDIUM STARaBLACK SMALLnaWHITEoaBLACK RIGHT-POINTING PENTAGONaWHITEp",
      "aHEAVY LARGE CIRCLEb OVAL WITH OVAL INSIDEb CIRCLE WITH CIRCLEncb CIRCLED SALTIRE",
      "aSLANTED NORTH ARROW WITH HOOKED HEADaBACKSLANTED SOUTH ARROW WITH HOOKED TAIL",
      "aSLANTED NORTH ARROW WITH HORIZONTALnaBACKSLANTED SOUTHq",
      "aBENT ARROW POINTING DOWNWARDS THEN NORTH EASTaSHORT BENTs",
      "aLEFTWARDS TRIANGLE-HEADED ARROWaUPWARDSpaRIGHTWARDSpaDOWNWARDSpaLEFT RIGHTpaUP DOWNp",
      "aNORTH WESTpb EASTpaSOUTHqb WESTpaLEFTWARDS TRIANGLE-HEADED DASHEDnaUPWARDSqaRIGHTWARDSq",
      "aDOWNWARDSqaCLOCKWISE TRIANGLE-HEADED OPEN CIRCLEnaANTICLOCKWISEr",
      "aLEFTWARDS TRIANGLE-HEADED ARROW TO BARaUPWARDSraRIGHTWARDSraDOWNWARDSr"]⟩,
   ⟨0x2b76, ["aNORTH WEST TRIANGLE-HEADED ARROW TO BARb EASTraSOUTHsb WESTr",
      "aLEFTWARDS TRIANGLE-HEADED ARROW WITH DOUBLE HORIZONTAL STROKEaUPWARDStaRIGHTWARDSt",
      "aDOWNWARDStaHORIZONTAL TAB KEYaVERTICALo",
      "aLEFTWARDS TRIANGLE-HEADED ARROW OVER RIGHTWARDS TRIANGLE-HEADED ARROW",
      "aUPWARDS TRIANGLE-HEADED ARROW LEFTWARDS OF DOWNWARDSp",
      "aRIGHTWARDS TRIANGLE-HEADED ARROW OVER LEFTWARDSp",
      "aDOWNWARDS TRIANGLE-HEADED ARROW LEFTWARDS OF UPWARDSp",
      "aLEFTWARDS TRIANGLE-HEADED PAIRED ARROWSaUPWARDSqaRIGHTWARDSqaDOWNWARDSq",
      "aLEFTWARDS BLACK CIRCLED WHITE ARROWaUPWARDSqaRIGHTWARDSqaDOWNWARDSq",
      "aANTICLOCKWISE TRIANGLE-HEADED RIGHT U-SHAPEDnd BOTTOMpd LEFTpd TOPpaRETURN LEFTb RIGHT",
      "aNEWLINE LEFTb RIGHTaFOUR CORNER ARROWS CIRCLING ANTICLOCKWISEaRIGHTWARDS BLACK ARROW"]⟩,
   ⟨0x2b97, ["aSYMBOL FOR TYPE A ELECTRONICSaTHREE-D TOP-LIGHTED LEFTWARDS EQUILATERAL ARROWHEAD",
      "c RIGHT-LIGHTED UPWARDSoc TOP-LIGHTED RIGHTWARDSoc LEFT-LIGHTED DOWNWARDSo",
      "aBLACK LEFTWARDSob UPWARDSob RIGHTWARDSob DOWNWARDSo",
      "aDOWNWARDS TRIANGLE-HEADED ARROW WITH LONG TIP LEFTWARDSh RIGHTWARDS",
      "aUPWARDS TRIANGLE-HEADED ARROW WITH LONG TIP LEFTWARDSh RIGHTWARDS",
      "aLEFTWARDS TRIANGLE-HEADED ARROW WITH LONG TIP UPWARDSaRIGHTWARDSt",
      "aLEFTWARDS TRIANGLE-HEADED ARROW WITH LONG TIP DOWNWARDSaRIGHTWARDSt",
      "aBLACK CURVED DOWNWARDS AND LEFTWARDS ARROWe RIGHTWARDSnc UPWARDS AND LEFTWARDSn",
      "e RIGHTWARDSnc LEFTWARDS AND UPWARDSnc RIGHTWARDSpc LEFTWARDS AND DOWNWARDSnc RIGHTWARDSp",
      "aRIBBON ARROW DOWN LEFTd RIGHTc UP LEFTd RIGHTc LEFT UPc RIGHTnc LEFT DOWNc RIGHTn",
      "aUPWARDS WHITE ARROW FROM BAR WITH HORIZONTAL BARaUP ARROWHEAD IN A RECTANGLE BOX",
      "aOVERLAPPING WHITE SQUARESc AND BLACKnboaBALLOT BOX WITH LIGHT XaCIRCLEDnb BOLDn",
      "aBLACK SQUARE CENTREDb DIAMONDnaTURNED BLACK PENTAGONaHORIZONTAL BLACK OCTAGONaBLACKn",
      "b MEDIUM UP-POINTING TRIANGLE CENTREDc DOWNpc LEFTpc RIGHTpaNEPTUNE FORM TWO",
      "aTOP HALF BLACK CIRCLEaBOTTOMpaLIGHT FOUR POINTED BLACK CUSPaROTATED LIGHTq",
      "aWHITE FOUR POINTEDnaROTATED WHITEpaSQUARE POSITION INDICATORaUNCERTAINTY SIGNaGROUP MARK",
      "aPLUTO FORM TWOc THREEc FOURc FIVEaTRANSPLUTOaPROSERPINAaASTRAEAaHYGIEAaPHOLUSaNESSUS",
      "aWHITE MOON SELENAaBLACK DIAMOND ON CROSSaTRUE LIGHT MOON ARTAaCUPIDOaHADESaZEUSaKRONOS",
      "aAPOLLONaADMETOSaVULCANUSaPOSEIDONaLEFT HALF BLACK STARaRIGHTpaSTAR WITH LEFT HALF BLACK",
      "c RIGHToaLEFTWARDS TWO-HEADED ARROW WITH TRIANGLE ARROWHEADSaUPWARDSsaRIGHTWARDSs",
      "aDOWNWARDSsaERIS FORM ONEc TWOaSEDNAaRUSSIAN ASTROLOGICAL SYMBOL VIGINTILEd NOVILE",
      "d QUINTILEd BINOVILEd SENTAGONd TREDECILEaEQUALS SIGN WITH INFINITY BELOWaUNITED SYMBOL",
      "aSEPARATEDnaDOUBLEDnaPASSEDnaREVERSED RIGHT ANGLEaHELLSCHREIBER PAUSE SYMBOL",
      "aGLAGOLITIC CAPITAL LETTER AZUd BUKYd VEDEd GLAGOLId DOBROd YESTUd ZHIVETEd DZELOd ZEMLJA",
      "d IZHEd INITIALnd Id DJERVId KAKOd LJUDIJEd MYSLITEd NASHId ONUd POKOJId RITSId SLOVO",
      "d TVRIDOd UKUd FRITUd HERUd OTUd PEd SHTAd TSId CHRIVId SHAd YERUd YERId YATId SPIDERY HA",
      "d YUd SMALL YUSf WITH TAILd YOd IOTATED SMALL YUSd BIGnd IOTATEDod FITAd IZHITSAd SHTAPIC",
      "d TROKUTASTI Ad LATINATE MYSLITEd CAUDATE CHRIVIb SMALL LETTER AZUd BUKYd VEDEd GLAGOLI",
      "d DOBROd YESTUd ZHIVETEd DZELOd ZEMLJAd IZHEd INITIALnd Id DJERVId KAKOd LJUDIJEd MYSLITE",
      "d NASHId ONUd POKOJId RITSId SLOVOd TVRIDOd UKUd FRITUd HERUd OTUd PEd SHTAd TSId CHRIVI",
      "d SHAd YERUd YERId YATId SPIDERY HAd YUd SMALL YUSf WITH TAILd YOd IOTATED SMALL YUS",
      "d BIGnd IOTATEDod FITAd IZHITSAd SHTAPICd TROKUTASTI Ad LATINATE MYSLITEd CAUDATE CHRIVI",
      "aLATIN CAPITAL LETTER L WITH DOUBLE BARb SMALLrb CAPITAL LETTER L WITH MIDDLE TILDE",
      "d P WITH STROKEd R WITH TAILb SMALL LETTER A WITH STROKEd T WITH DIAGONALn",
      "b CAPITAL LETTER H WITH DESCENDERb SMALLqb CAPITAL LETTER Kob SMALLqb CAPITAL LETTER Zo",
      "b SMALLqb CAPITAL LETTER ALPHAd M WITH HOOKd TURNED Ae ALPHA",
      "b SMALL LETTER V WITH RIGHT HOOKb CAPITAL LETTER W WITHnb SMALLqd V WITH CURL",
      "b CAPITAL LETTER HALF Hb SMALLpd TAILLESS PHId E WITH NOTCHd TURNED R WITH TAIL",
      "d O WITH LOW RING INSIDEb LETTER SMALL CAPITAL TURNED Eb SUBSCRIPT SMALL LETTER J",
      "aMODIFIER LETTER CAPITAL VaLATIN CAPITAL LETTER S WITH SWASH TAILd Zp",
      "aCOPTIC CAPITAL LETTER ALFAb SMALLob CAPITAL LETTER VIDAb SMALLob CAPITAL LETTER GAMMA",
      "b SMALLob CAPITAL LETTER DALDAb SMALLob CAPITAL LETTER EIEb SMALLob CAPITAL LETTER SOU",
      "b SMALLob CAPITAL LETTER ZATAb SMALLob CAPITAL LETTER HATEb SMALLob CAPITAL LETTER THETHE",
      "b SMALLob CAPITAL LETTER IAUDAb SMALLob CAPITAL LETTER KAPAb SMALLob CAPITAL LETTER LAULA",
      "b SMALLob CAPITAL LETTER MIb SMALLob CAPITAL LETTER NIb SMALLob CAPITAL LETTER KSI",
      "b SMALLob CAPITAL LETTER Ob SMALLob CAPITAL LETTER PIb SMALLob CAPITAL LETTER ROb SMALLo",
      "b CAPITAL LETTER SIMAb SMALLob CAPITAL LETTER TAUb SMALLob CAPITAL LETTER UAb SMALLo",
      "b CAPITAL LETTER FIb SMALLob CAPITAL LETTER KHIb SMALLob CAPITAL LETTER PSIb SMALLo",
      "b CAPITAL LETTER OOUb SMALLob CAPITAL LETTER DIALECT-P ALEFb SMALLq",
      "b CAPITAL LETTER OLD COPTIC AINb SMALLqb CAPITAL LETTER CRYPTOGRAMMIC EIEb SMALLp",
      "b CAPITAL LETTER DIALECT-P KAPAb SMALLqb CAPITAL LETTER DIALECT-P NIb SMALLq",
      "b CAPITAL LETTER CRYPTOGRAMMICnb SMALLpb CAPITAL LETTER OLD COPTIC OOUb SMALLq",
      "b CAPITAL LETTER SAMPIb SMALLob CAPITAL LETTER CROSSED SHEIb SMALLp",
      "b CAPITAL LETTER OLD COPTICnb SMALLqb CAPITAL LETTER OLD COPTIC ESHb SMALLq",
      "b CAPITAL LETTER AKHMIMIC KHEIb SMALLpb CAPITAL LETTER DIALECT-P HORIb SMALLq",
      "b CAPITAL LETTER OLD COPTICnb SMALLqb CAPITAL LETTER OLD COPTIC HAb SMALLq",
      "b CAPITAL LETTER L-SHAPEDnb SMALLqb CAPITAL LETTER OLD COPTIC HEIb SMALLq",
      "b CAPITAL LETTER OLD COPTIC HATb SMALLqb CAPITAL LETTER OLD COPTIC GANGIAb SMALLq",
      "b CAPITAL LETTER OLD COPTIC DJAb SMALLqb CAPITAL LETTER OLD COPTIC SHIMAb SMALLq",
      "b CAPITAL LETTER OLD NUBIANnb SMALLqb CAPITAL LETTER OLD NUBIAN NGIb SMALLq",
      "b CAPITAL LETTER OLD NUBIAN NYIb SMALLqb CAPITAL LETTER OLD NUBIAN WAUb SMALLq",
      "b SYMBOL KAIc MI ROc PInc STAUROSc TAU ROc KHInc SHIMA SIMA",
      "b CAPITAL LETTER CRYPTOGRAMMIC SHEIb SMALLpb CAPITAL LETTER CRYPTOGRAMMIC GANGIAb SMALLp",
      "b COMBINING NI ABOVEc SPIRITUS ASPERd LENISb CAPITAL LETTER BOHAIRIC KHEIb SMALLp"]⟩,
   ⟨0x2cf9, ["aCOPTIC OLD NUBIAN FULL STOPd DIRECT QUESTION MARKd INDIRECTod VERSE DIVIDER",
      "b FRACTION ONE HALFb FULL STOPb MORPHOLOGICAL DIVIDERaGEORGIAN SMALL LETTER ANd BANd GAN",
      "d DONd ENd VINd ZENd TANd INd KANd LASd MANd NARd ONd PARd ZHARd RAEd SANd TARd UNd PHAR",
      "d KHARd GHANd QARd SHINd CHINd CANd JILd CILd CHARd XANd JHANd HAEd HEd HIEd WEd HARd HOE"]⟩,
   ⟨0x2d27, ["aGEORGIAN SMALL LETTER YN"]⟩,
   ⟨0x2d2d, ["aGEORGIAN SMALL LETTER AEN"]⟩,
   ⟨0x2d30, ["aTIFINAGH LETTER YAc YABc YABHc YAGc YAGHHc BERBER ACADEMY YAJcnc YADc YADHc YADD",
      "c YADDHc YEYc YAFc YAKc TUAREGnc YAKHHc YAHc BERBER ACADEMYnc TUAREGnc YAHHc YAAc YAKH",
      "c TUAREGnc YAQc TUAREGnc YIc YAZHc AHAGGARnc TUAREGnc YALc YAMc YANc TUAREG YAGNd YANG",
      "c YAPc YUc YARc YARRc YAGHc TUAREGnc AYERnc YASc YASSc YASHc YATc YATHc YACHc YATTc YAV",
      "c YAWc YAYc YAZc TAWELLEMETnc YAZZc YEc YO"]⟩,
   ⟨0x2d6f, ["aTIFINAGH MODIFIER LETTER LABIALIZATION MARKb SEPARATORn"]⟩,
   ⟨0x2d7f, ["aTIFINAGH CONSONANT JOINERaETHIOPIC SYLLABLE LOAc MOAc ROAc SOAc SHOAc BOAc TOA",
      "c COAc NOAc NYOAc GLOTTAL OAc ZOAc DOAc DDOAc JOAc THOAc CHOAc PHOAc POAc GGWAc GGWI",
      "c GGWEEc GGWE"]⟩,
   ⟨0x2da0, ["aETHIOPIC SYLLABLE SSAc SSUc SSIc SSAAc SSEEc SSEc SSO"]⟩,
   ⟨0x2da8, ["aETHIOPIC SYLLABLE CCAc CCUc CCIc CCAAc CCEEc CCEc CCO"]⟩,
   ⟨0x2db0, ["aETHIOPIC SYLLABLE ZZAc ZZUc ZZIc ZZAAc ZZEEc ZZEc ZZO"]⟩,
   ⟨0x2db8, ["aETHIOPIC SYLLABLE CCHAc CCHUc CCHIc CCHAAc CCHEEc CCHEc CCHO"]⟩,
   ⟨0x2dc0, ["aETHIOPIC SYLLABLE QYAc QYUc QYIc QYAAc QYEEc QYEc QYO"]⟩,
   ⟨0x2dc8, ["aETHIOPIC SYLLABLE KYAc KYUc KYIc KYAAc KYEEc KYEc KYO"]⟩,
   ⟨0x2dd0, ["aETHIOPIC SYLLABLE XYAc XYUc XYIc XYAAc XYEEc XYEc XYO"]⟩,
   ⟨0x2dd8, ["aETHIOPIC SYLLABLE GYAc GYUc GYIc GYAAc GYEEc GYEc GYO"]⟩,
   ⟨0x2de0, ["aCOMBINING CYRILLIC LETTER BEd VEd GHEd DEd ZHEd ZEd KAd ELd EMd ENd Od PEd ERd ES",
      "d TEd HAd TSEd CHEd SHAd SHCHAd FITAd ES-TEd Ad IEd DJERVd MONOGRAPH UKd YATd YU",
      "d IOTIFIED Ad LITTLE YUSd BIGnd IOTIFIEDo"]⟩]

end QueryDepth
