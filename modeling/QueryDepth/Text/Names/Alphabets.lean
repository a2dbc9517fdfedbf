import QueryDepth.Text.NamedRun

/-! Names of the letters and marks of Latin, Greek, Cyrillic and the other scripts up to N'Ko. -/
namespace QueryDepth

def alphabetRuns : List NamedRun :=
  [⟨0x20, ["aSPACEaEXCLAMATION MARKaQUOTATIONnaNUMBER SIGNaDOLLARnaPERCENTnaAMPERSANDaAPOSTROPHE",
      "aLEFT PARENTHESISaRIGHTnaASTERISKaPLUS SIGNaCOMMAaHYPHEN-MINUSaFULL STOPaSOLIDUS",
      "aDIGIT ZEROb ONEb TWOb THREEb FOURb FIVEb SIXb SEVENb EIGHTb NINEaCOLONaSEMICOLON",
      "aLESS-THAN SIGNaEQUALSnaGREATER-THANnaQUESTION MARKaCOMMERCIAL ATaLATIN CAPITAL LETTER A",
      "d Bd Cd Dd Ed Fd Gd Hd Id Jd Kd Ld Md Nd Od Pd Qd Rd Sd Td Ud Vd Wd Xd Yd Z",
      "aLEFT SQUARE BRACKETaREVERSE SOLIDUSaRIGHT SQUARE BRACKETaCIRCUMFLEX ACCENTaLOW LINE",
      "aGRAVE ACCENTaLATIN SMALL LETTER Ad Bd Cd Dd Ed Fd Gd Hd Id Jd Kd Ld Md Nd Od Pd Qd Rd S",
      "d Td Ud Vd Wd Xd Yd ZaLEFT CURLY BRACKETaVERTICAL LINEaRIGHT CURLY BRACKETaTILDE"]⟩,
   ⟨0xa0, ["aNO-BREAK SPACEaINVERTED EXCLAMATION MARKaCENT SIGNaPOUNDnaCURRENCYnaYENnaBROKEN BAR",
      "aSECTION SIGNaDIAERESISaCOPYRIGHT SIGNaFEMININE ORDINAL INDICATOR",
      "aLEFT-POINTING DOUBLE ANGLE QUOTATION MARKaNOT SIGNaSOFT HYPHENaREGISTERED SIGNaMACRON",
      "aDEGREE SIGNaPLUS-MINUSnaSUPERSCRIPT TWOb THREEaACUTE ACCENTaMICRO SIGNaPILCROWn",
      "aMIDDLE DOTaCEDILLAaSUPERSCRIPT ONEaMASCULINE ORDINAL INDICATOR",
      "aRIGHT-POINTING DOUBLE ANGLE QUOTATION MARKaVULGAR FRACTION ONE QUARTERd HALF",
      "c THREE QUARTERSaINVERTED QUESTION MARKaLATIN CAPITAL LETTER A WITH GRAVEf ACUTE",
      "f CIRCUMFLEXf TILDEf DIAERESISf RING ABOVEd AEd C WITH CEDILLAd E WITH GRAVEf ACUTE",
      "f CIRCUMFLEXf DIAERESISd I WITH GRAVEf ACUTEf CIRCUMFLEXf DIAERESISd ETHd N WITH TILDE",
      "d O WITH GRAVEf ACUTEf CIRCUMFLEXf TILDEf DIAERESISaMULTIPLICATION SIGN",
      "aLATIN CAPITAL LETTER O WITH STROKEd U WITH GRAVEf ACUTEf CIRCUMFLEXf DIAERESIS",
      "d Y WITH ACUTEd THORNb SMALL LETTER SHARP Sd A WITH GRAVEf ACUTEf CIRCUMFLEXf TILDE",
      "f DIAERESISf RING ABOVEd AEd C WITH CEDILLAd E WITH GRAVEf ACUTEf CIRCUMFLEXf DIAERESIS",
      "d I WITH GRAVEf ACUTEf CIRCUMFLEXf DIAERESISd ETHd N WITH TILDEd O WITH GRAVEf ACUTE",
      "f CIRCUMFLEXf TILDEf DIAERESISaDIVISION SIGNaLATIN SMALL LETTER O WITH STROKE",
      "d U WITH GRAVEf ACUTEf CIRCUMFLEXf DIAERESISd Y WITH ACUTEd THORNd Y WITH DIAERESIS",
      "b CAPITAL LETTER A WITH MACRONb SMALLqb CAPITAL LETTER A WITH BREVEb SMALLq",
      "b CAPITAL LETTER A WITH OGONEKb SMALLqb CAPITAL LETTER C WITH ACUTEb SMALLq",
      "b CAPITAL LETTER C WITH CIRCUMFLEXb SMALLqb CAPITAL LETTER C WITH DOT ABOVEb SMALLr",
      "b CAPITAL LETTER C WITH CARONb SMALLqb CAPITAL LETTER Dob SMALLq",
      "b CAPITAL LETTER D WITH STROKEb SMALLqb CAPITAL LETTER E WITH MACRONb SMALLq",
      "b CAPITAL LETTER E WITH BREVEb SMALLqb CAPITAL LETTER E WITH DOT ABOVEb SMALLr",
      "b CAPITAL LETTER E WITH OGONEKb SMALLqb CAPITAL LETTER E WITH CARONb SMALLq",
      "b CAPITAL LETTER G WITH CIRCUMFLEXb SMALLqb CAPITAL LETTER G WITH BREVEb SMALLq",
      "b CAPITAL LETTER G WITH DOT ABOVEb SMALLrb CAPITAL LETTER G WITH CEDILLAb SMALLq",
      "b CAPITAL LETTER H WITH CIRCUMFLEXb SMALLqb CAPITAL LETTER H WITH STROKEb SMALLq",
      "b CAPITAL LETTER I WITH TILDEb SMALLqb CAPITAL LETTER I WITH MACRONb SMALLq",
      "b CAPITAL LETTER I WITH BREVEb SMALLqb CAPITAL LETTER I WITH OGONEKb SMALLq",
      "b CAPITAL LETTER I WITH DOT ABOVEb SMALL LETTER DOTLESS Ib CAPITAL LIGATURE IJb SMALLo",
      "b CAPITAL LETTER J WITH CIRCUMFLEXb SMALLqb CAPITAL LETTER K WITH CEDILLAb SMALLqd KRA",
      "b CAPITAL LETTER L WITH ACUTEb SMALLqb CAPITAL LETTER L WITH CEDILLAb SMALLq",
      "b CAPITAL LETTER L WITH CARONb SMALLqb CAPITAL LETTER L WITH MIDDLE DOTb SMALLr",
      "b CAPITAL LETTER L WITH STROKEb SMALLqb CAPITAL LETTER N WITH ACUTEb SMALLq",
      "b CAPITAL LETTER N WITH CEDILLAb SMALLqb CAPITAL LETTER N WITH CARONb SMALLq",
      "e PRECEDED BY APOSTROPHEb CAPITAL LETTER ENGb SMALLob CAPITAL LETTER O WITH MACRON",
      "b SMALLqb CAPITAL LETTER O WITH BREVEb SMALLqb CAPITAL LETTER O WITH DOUBLE ACUTEb SMALLr",
      "b CAPITAL LIGATURE OEb SMALLob CAPITAL LETTER R WITH ACUTEb SMALLq",
      "b CAPITAL LETTER R WITH CEDILLAb SMALLqb CAPITAL LETTER R WITH CARONb SMALLq",
      "b CAPITAL LETTER S WITH ACUTEb SMALLqb CAPITAL LETTER S WITH CIRCUMFLEXb SMALLq",
      "b CAPITAL LETTER S WITH CEDILLAb SMALLqb CAPITAL LETTER S WITH CARONb SMALLq",
      "b CAPITAL LETTER T WITH CEDILLAb SMALLqb CAPITAL LETTER T WITH CARONb SMALLq",
      "b CAPITAL LETTER T WITH STROKEb SMALLqb CAPITAL LETTER U WITH TILDEb SMALLq",
      "b CAPITAL LETTER U WITH MACRONb SMALLqb CAPITAL LETTER U WITH BREVEb SMALLq",
      "b CAPITAL LETTER U WITH RING ABOVEb SMALLrb CAPITAL LETTER U WITH DOUBLE ACUTEb SMALLr",
      "b CAPITAL LETTER U WITH OGONEKb SMALLqb CAPITAL LETTER W WITH CIRCUMFLEXb SMALLq",
      "b CAPITAL LETTER Yob SMALLqb CAPITAL LETTER Y WITH DIAERESISd Z WITH ACUTEb SMALLq",
      "b CAPITAL LETTER Z WITH DOT ABOVEb SMALLrb CAPITAL LETTER Z WITH CARONb SMALLqd LONG S",
      "d B WITH STROKEb CAPITAL LETTER B WITH HOOKf TOPBARb SMALLqb CAPITAL LETTER TONE SIX",
      "b SMALLpb CAPITAL LETTER OPEN Od C WITH HOOKb SMALLqb CAPITAL LETTER AFRICAN D",
      "d D WITH HOOKf TOPBARb SMALLqd TURNED DELTAb CAPITAL LETTER REVERSED Ed SCHWAd OPEN E",
      "d F WITH HOOKb SMALLqb CAPITAL LETTER God GAMMAb SMALL LETTER HVb CAPITAL LETTER IOTA",
      "d I WITH STROKEd K WITH HOOKb SMALLqd L WITH BARd LAMBDA WITH STROKE",
      "b CAPITAL LETTER TURNED Md N WITH LEFT HOOKb SMALL LETTER N WITH LONG RIGHT LEG",
      "b CAPITAL LETTER O WITH MIDDLE TILDEf HORNb SMALLqb CAPITAL LETTER OIb SMALLo",
      "b CAPITAL LETTER P WITH HOOKb SMALLqb LETTER YRb CAPITAL LETTER TONE TWOb SMALLp",
      "b CAPITAL LETTER ESHb LETTER REVERSED ESH LOOPb SMALL LETTER T WITH PALATAL HOOK",
      "b CAPITAL LETTER T WITHnb SMALLqb CAPITAL LETTER T WITH RETROFLEXnd U WITH HORNb SMALLq",
      "b CAPITAL LETTER UPSILONd V WITH HOOKd Yob SMALLqb CAPITAL LETTER Z WITH STROKEb SMALLq",
      "b CAPITAL LETTER EZHe REVERSEDb SMALLpe WITH TAILb LETTER TWO WITH STROKE",
      "b CAPITAL LETTER TONE FIVEb SMALLpb LETTER INVERTED GLOTTAL STOP WITH STROKEc WYNN",
      "c DENTAL CLICKc LATERALnc ALVEOLARnc RETROFLEXnb CAPITAL LETTER DZ WITH CARON",
      "d D WITH SMALL LETTER Zob SMALL LETTER DZob CAPITAL LETTER LJd L WITH SMALL LETTER J",
      "b SMALL LETTER LJb CAPITAL LETTER NJd N WITH SMALL LETTER Jb SMALL LETTER NJ",
      "b CAPITAL LETTER A WITH CARONb SMALLqb CAPITAL LETTER Iob SMALLqb CAPITAL LETTER Oo",
      "b SMALLqb CAPITAL LETTER Uob SMALLqb CAPITAL LETTER U WITH DIAERESIS AND MACRONb SMALLs",
      "b CAPITAL LETTER U WITH DIAERESIS AND ACUTEb SMALLs",
      "b CAPITAL LETTER U WITH DIAERESIS AND CARONb SMALLs",
      "b CAPITAL LETTER U WITH DIAERESIS AND GRAVEb SMALLsd TURNED E",
      "b CAPITAL LETTER A WITH DIAERESIS AND MACRONb SMALLsb CAPITAL LETTER A WITH DOT ABOVEo",
      "b SMALLtb CAPITAL LETTER AE WITHnb SMALLqb CAPITAL LETTER G WITH STROKEb SMALLq",
      "b CAPITAL LETTER G WITH CARONb SMALLqb CAPITAL LETTER Kob SMALLq",
      "b CAPITAL LETTER O WITH OGONEKb SMALLqb CAPITAL LETTER O WITH OGONEK AND MACRONb SMALLs",
      "b CAPITAL LETTER EZH WITH CARONb SMALLqd Job CAPITAL LETTER DZd D WITH SMALL LETTER Z",
      "b SMALL LETTER DZb CAPITAL LETTER G WITH ACUTEb SMALLqb CAPITAL LETTER HWAIRd WYNN",
      "d N WITH GRAVEb SMALLqb CAPITAL LETTER A WITH RING ABOVE AND ACUTEb SMALLt",
      "b CAPITAL LETTER AE WITHnb SMALLqb CAPITAL LETTER O WITH STROKE ANDnb SMALLs",
      "b CAPITAL LETTER A WITH DOUBLE GRAVEb SMALLrb CAPITAL LETTER A WITH INVERTED BREVE",
      "b SMALLrb CAPITAL LETTER E WITH DOUBLE GRAVEb SMALLr",
      "b CAPITAL LETTER E WITH INVERTED BREVEb SMALLrb CAPITAL LETTER I WITH DOUBLE GRAVE",
      "b SMALLrb CAPITAL LETTER I WITH INVERTED BREVEb SMALLr",
      "b CAPITAL LETTER O WITH DOUBLE GRAVEb SMALLrb CAPITAL LETTER O WITH INVERTED BREVE",
      "b SMALLrb CAPITAL LETTER R WITH DOUBLE GRAVEb SMALLr",
      "b CAPITAL LETTER R WITH INVERTED BREVEb SMALLrb CAPITAL LETTER U WITH DOUBLE GRAVE",
      "b SMALLrb CAPITAL LETTER U WITH INVERTED BREVEb SMALLrb CAPITAL LETTER S WITH COMMA BELOW",
      "b SMALLrb CAPITAL LETTER Tpb SMALLrb CAPITAL LETTER YOGHb SMALLo",
      "b CAPITAL LETTER H WITH CARONb SMALLqb CAPITAL LETTER N WITH LONG RIGHT LEG",
      "b SMALL LETTER D WITH CURLb CAPITAL LETTER OUb SMALLob CAPITAL LETTER Z WITH HOOKb SMALLq",
      "b CAPITAL LETTER A WITH DOT ABOVEb SMALLrb CAPITAL LETTER E WITH CEDILLAb SMALLq",
      "b CAPITAL LETTER O WITH DIAERESIS AND MACRONb SMALLsb CAPITAL LETTER O WITH TILDEo",
      "b SMALLsb CAPITAL LETTER O WITH DOT ABOVEb SMALLr",
      "b CAPITAL LETTER O WITH DOT ABOVE AND MACRONb SMALLtb CAPITAL LETTER Y WITHnb SMALLq",
      "d L WITH CURLd Nod Tod DOTLESS Jd DB DIGRAPHd QPnb CAPITAL LETTER A WITH STROKEd Co",
      "b SMALLqb CAPITAL LETTER L WITH BARd T WITH DIAGONAL STROKE",
      "b SMALL LETTER S WITH SWASH TAILd Zpb CAPITAL LETTER GLOTTAL STOPb SMALLp",
      "b CAPITAL LETTER B WITH STROKEd U BARd TURNED Vd E WITH STROKEb SMALLqb CAPITAL LETTER Jo",
      "b SMALLqb CAPITAL LETTER SMALL Q WITH HOOK TAILb SMALL LETTERq",
      "b CAPITAL LETTER R WITH STROKEb SMALLqb CAPITAL LETTER Yob SMALLqd TURNED Ad ALPHA",
      "d TURNEDnd B WITH HOOKd OPEN Od C WITH CURLd D WITH TAILf HOOKd REVERSED Ed SCHWA",
      "e WITH HOOKd OPEN Ed REVERSEDog WITH HOOKd CLOSED REVERSED OPEN Ed DOTLESS J WITH STROKE",
      "d G WITH HOOKd SCRIPT Gb LETTER SMALL CAPITALnb SMALL LETTER GAMMAd RAMS HORNd TURNED H",
      "d H WITH HOOKd HENGod I WITH STROKEd IOTAb LETTER SMALL CAPITAL I",
      "b SMALL LETTER L WITH MIDDLE TILDEf BELTf RETROFLEX HOOKd LEZHd TURNED Mf WITH LONG LEG",
      "d M WITH HOOKd N WITH LEFTnf RETROFLEXnb LETTER SMALL CAPITAL Nb SMALL LETTER BARRED O",
      "b LETTER SMALL CAPITAL OEb SMALL LETTER CLOSED OMEGAd PHId TURNED Rf WITH LONG LEGg HOOK",
      "d R WITH LONG LEGf TAILf FISHHOOKd REVERSEDpb LETTER SMALL CAPITAL Re INVERTEDn",
      "b SMALL LETTER S WITH HOOKd ESHd DOTLESS J WITH STROKE AND HOOKd SQUAT REVERSED ESH",
      "d ESH WITH CURLd TURNED Td T WITH RETROFLEX HOOKd U BARd UPSILONd V WITH HOOKd TURNED V",
      "e We Yb LETTER SMALL CAPITALnb SMALL LETTER Z WITH RETROFLEX HOOKf CURLd EZHe WITH CURL",
      "b LETTER GLOTTAL STOPc PHARYNGEAL VOICED FRICATIVEc INVERTED GLOTTAL STOPc STRETCHED C",
      "c BILABIAL CLICKc SMALL CAPITAL Bb SMALL LETTER CLOSED OPEN E",
      "b LETTER SMALL CAPITAL G WITH HOOKe Hb SMALL LETTER J WITH CROSSED-TAILd TURNED K",
      "b LETTER SMALL CAPITAL Lb SMALL LETTER Q WITH HOOKb LETTER GLOTTAL STOP WITH STROKE",
      "c REVERSEDqb SMALL LETTER DZ DIGRAPHd DEZHnd DZ DIGRAPH WITH CURLd TS DIGRAPHd TESHn",
      "d TC DIGRAPH WITH CURLd FENG DIGRAPHd LSnd LZnb LETTER BILABIAL PERCUSSIVEc BIDENTALn",
      "b SMALL LETTER TURNED H WITH FISHHOOKh AND TAILaMODIFIER LETTER SMALL He WITH HOOKd Jd R",
      "d TURNEDnf WITH HOOKd CAPITAL INVERTED Rd Wd Yc PRIMEc DOUBLEnc TURNED COMMAc APOSTROPHE",
      "c REVERSED COMMAc RIGHT HALF RINGc LEFToc GLOTTAL STOPc REVERSEDoc LEFT ARROWHEADc RIGHTn",
      "c UPnc DOWNnc CIRCUMFLEX ACCENTaCARONaMODIFIER LETTER VERTICAL LINEc MACRONc ACUTE ACCENT",
      "c GRAVEnc LOW VERTICAL LINEd MACRONd GRAVE ACCENTd ACUTEnc TRIANGULAR COLONc HALFo",
      "c CENTRED RIGHT HALF RINGd LEFToc UP TACKc DOWNnc PLUS SIGNc MINUSnaBREVEaDOT ABOVEaRINGn",
      "aOGONEKaSMALL TILDEaDOUBLE ACUTE ACCENTaMODIFIER LETTER RHOTIC HOOKc CROSS ACCENT",
      "c SMALL GAMMAd Ld Sd Xd REVERSED GLOTTAL STOPc EXTRA-HIGH TONE BARc HIGHoc MIDoc LOWo",
      "c EXTRA-LOWoc YIN DEPARTING TONE MARKc YANGpc VOICINGc UNASPIRATEDc DOUBLE APOSTROPHE",
      "c LOW DOWN ARROWHEADd UPnd LEFTnd RIGHTnd RINGc MIDDLE GRAVE ACCENTd DOUBLEoe ACUTEn",
      "c LOW TILDEc RAISED COLONc BEGIN HIGH TONEc ENDoc BEGIN LOWnc ENDoc SHELFc OPENn",
      "c LOW LEFT ARROWaCOMBINING GRAVE ACCENTb ACUTEnb CIRCUMFLEXnb TILDEb MACRONb OVERLINE",
      "b BREVEb DOT ABOVEb DIAERESISb HOOK ABOVEb RINGnb DOUBLE ACUTE ACCENTb CARON",
      "b VERTICAL LINE ABOVEb DOUBLEpc GRAVE ACCENTb CANDRABINDUb INVERTED BREVE",
      "b TURNED COMMA ABOVEbob REVERSEDob COMMA ABOVE RIGHTb GRAVE ACCENT BELOWb ACUTEo",
      "b LEFT TACKnb RIGHTob LEFT ANGLE ABOVEb HORNb LEFT HALF RING BELOWb UP TACKnb DOWNo",
      "b PLUS SIGNnb MINUSob PALATALIZED HOOKnb RETROFLEXob DOTnb DIAERESISnb RINGnb COMMAn",
      "b CEDILLAb OGONEKb VERTICAL LINE BELOWb BRIDGEnb INVERTED DOUBLE ARCHnb CARONn",
      "b CIRCUMFLEX ACCENTnb BREVEnb INVERTEDob TILDEnb MACRONnb LOW LINEb DOUBLEo",
      "b TILDE OVERLAYb SHORT STROKEnb LONGob SHORT SOLIDUSnb LONGob RIGHT HALF RING BELOW",
      "b INVERTED BRIDGEnb SQUAREnb SEAGULLnb X ABOVEb VERTICAL TILDEb DOUBLE OVERLINE",
      "b GRAVE TONE MARKb ACUTEob GREEK PERISPOMENIc KORONISc DIALYTIKA TONOSc YPOGEGRAMMENI",
      "b BRIDGE ABOVEb EQUALS SIGN BELOWb DOUBLE VERTICAL LINEnb LEFT ANGLEnb NOT TILDE ABOVE",
      "b HOMOTHETICnb ALMOST EQUAL TOnb LEFT RIGHT ARROW BELOWb UPWARDSob GRAPHEME JOINER",
      "b RIGHT ARROWHEAD ABOVEb LEFT HALF RINGnb FERMATAb X BELOWb LEFT ARROWHEADnb RIGHTo",
      "d AND UP ARROWHEADnc HALF RING ABOVEb DOT ABOVE RIGHTb ASTERISK BELOWb DOUBLE RINGn",
      "b ZIGZAG ABOVEb DOUBLE BREVE BELOWdc MACRONd BELOWc TILDEc INVERTED BREVE",
      "c RIGHTWARDS ARROW BELOWb LATIN SMALL LETTER Ae Ee Ie Oe Ue Ce De He Me Re Te Ve X",
      "aGREEK CAPITAL LETTER HETAb SMALLob CAPITAL LETTER ARCHAIC SAMPIb SMALLpb NUMERAL SIGN",
      "b LOWERob CAPITAL LETTER PAMPHYLIAN DIGAMMAb SMALLp"]⟩,
   ⟨0x37a, ["aGREEK YPOGEGRAMMENIb SMALL REVERSED LUNATE SIGMA SYMBOLc DOTTEDpc REVERSEDq",
      "b QUESTION MARKb CAPITAL LETTER YOT"]⟩,
   ⟨0x384, ["aGREEK TONOSb DIALYTIKAnb CAPITAL LETTER ALPHA WITHnb ANO TELEIA",
      "b CAPITAL LETTER EPSILON WITH TONOSd ETAod IOTAo"]⟩,
   ⟨0x38c, ["aGREEK CAPITAL LETTER OMICRON WITH TONOS"]⟩,
   ⟨0x38e, ["aGREEK CAPITAL LETTER UPSILON WITH TONOSd OMEGAo",
      "b SMALL LETTER IOTA WITH DIALYTIKA ANDnb CAPITAL LETTER ALPHAd BETAd GAMMAd DELTA",
      "d EPSILONd ZETAd ETAd THETAd IOTAd KAPPAd LAMDAd MUd NUd XId OMICRONd PId RHO"]⟩,
   ⟨0x3a3, ["aGREEK CAPITAL LETTER SIGMAd TAUd UPSILONd PHId CHId PSId OMEGA",
      "d IOTA WITH DIALYTIKAd UPSILONob SMALL LETTER ALPHA WITH TONOSd EPSILONod ETAod IOTAo",
      "d UPSILON WITH DIALYTIKA ANDnd ALPHAd BETAd GAMMAd DELTAd EPSILONd ZETAd ETAd THETAd IOTA",
      "d KAPPAd LAMDAd MUd NUd XId OMICRONd PId RHOd FINAL SIGMAdnd TAUd UPSILONd PHId CHId PSI",
      "d OMEGAd IOTA WITH DIALYTIKAd UPSILONod OMICRON WITH TONOSd UPSILONod OMEGAo",
      "b CAPITAL KAI SYMBOLb BETAnb THETAnb UPSILON WITH HOOKnd ACUTE ANDod DIAERESISpb PHIn",
      "b PInb KAInb LETTER ARCHAIC KOPPAb SMALLpb LETTER STIGMAb SMALLob LETTER DIGAMMAb SMALLo",
      "b LETTER KOPPAb SMALLob LETTER SAMPIb SMALLoaCOPTIC CAPITAL LETTER SHEIb SMALLo",
      "b CAPITAL LETTER FEIb SMALLob CAPITAL LETTER KHEIb SMALLob CAPITAL LETTER HORIb SMALLo",
      "b CAPITAL LETTER GANGIAb SMALLob CAPITAL LETTER SHIMAb SMALLob CAPITAL LETTER DEIb SMALLo",
      "aGREEK KAPPA SYMBOLb RHOnb LUNATE SIGMAnb LETTER YOTb CAPITAL THETA SYMBOL",
      "b LUNATE EPSILONnb REVERSEDpb CAPITAL LETTER SHOb SMALLob CAPITAL LUNATE SIGMA SYMBOL",
      "c LETTER SANb SMALLob RHO WITH STROKE SYMBOLb CAPITAL REVERSED LUNATE SIGMAnc DOTTEDp",
      "c REVERSEDqaCYRILLIC CAPITAL LETTER IE WITH GRAVEd IOd DJEd GJEd UKRAINIAN IEd DZE",
      "d BYELORUSSIAN-UKRAINIAN Id YId JEd LJEd NJEd TSHEd KJEd I WITH GRAVEd SHORT Ud DZHEd A",
      "d BEd VEd GHEd DEd IEd ZHEd ZEd Id SHORTnd KAd ELd EMd ENd Od PEd ERd ESd TEd Ud EFd HA",
      "d TSEd CHEd SHAd SHCHAd HARD SIGNd YERUd SOFT SIGNd Ed YUd YAb SMALL LETTER Ad BEd VE",
      "d GHEd DEd IEd ZHEd ZEd Id SHORTnd KAd ELd EMd ENd Od PEd ERd ESd TEd Ud EFd HAd TSEd CHE",
      "d SHAd SHCHAd HARD SIGNd YERUd SOFT SIGNd Ed YUd YAd IE WITH GRAVEd IOd DJEd GJE",
      "d UKRAINIAN IEd DZEd BYELORUSSIAN-UKRAINIAN Id YId JEd LJEd NJEd TSHEd KJEd I WITH GRAVE",
      "d SHORT Ud DZHEb CAPITAL LETTER OMEGAb SMALLob CAPITAL LETTER YATb SMALLo",
      "b CAPITAL LETTER IOTIFIED Eb SMALLpb CAPITAL LETTER LITTLE YUSb SMALLp",
      "b CAPITAL LETTER IOTIFIEDob SMALLqb CAPITAL LETTER BIGnb SMALLpb CAPITAL LETTER IOTIFIEDo",
      "b SMALLqb CAPITAL LETTER KSIb SMALLob CAPITAL LETTER PSIb SMALLob CAPITAL LETTER FITA",
      "b SMALLob CAPITAL LETTER IZHITSAb SMALLob CAPITAL LETTER IZHITSA WITH DOUBLE GRAVE ACCENT",
      "b SMALLsb CAPITAL LETTER UKb SMALLob CAPITAL LETTER ROUND OMEGAb SMALLp",
      "b CAPITAL LETTER OMEGA WITH TITLOb SMALLqb CAPITAL LETTER OTb SMALLo",
      "b CAPITAL LETTER KOPPAb SMALLob THOUSANDS SIGNaCOMBINING CYRILLIC TITLOc PALATALIZATION",
      "c DASIA PNEUMATAc PSILInc POKRYTIEc HUNDRED THOUSANDS SIGNc MILLIONSn",
      "aCYRILLIC CAPITAL LETTER SHORT I WITH TAILb SMALLrb CAPITAL LETTER SEMISOFT SIGNb SMALLp",
      "b CAPITAL LETTER ER WITH TICKb SMALLqb CAPITAL LETTER GHE WITH UPTURNb SMALLq",
      "b CAPITAL LETTER GHE WITH STROKEb SMALLqb CAPITAL LETTER GHE WITH MIDDLE HOOKb SMALLr",
      "b CAPITAL LETTER ZHE WITH DESCENDERb SMALLqb CAPITAL LETTER ZEob SMALLq",
      "b CAPITAL LETTER KAob SMALLqb CAPITAL LETTER KA WITH VERTICAL STROKEb SMALLr",
      "b CAPITAL LETTER KA WITHnb SMALLqb CAPITAL LETTER BASHKIR KAb SMALLp",
      "b CAPITAL LETTER EN WITH DESCENDERb SMALLqb CAPITAL LIGATURE EN GHEb SMALLp",
      "b CAPITAL LETTER PE WITH MIDDLE HOOKb SMALLrb CAPITAL LETTER ABKHASIAN HAb SMALLp",
      "b CAPITAL LETTER ES WITH DESCENDERb SMALLqb CAPITAL LETTER TEob SMALLq",
      "b CAPITAL LETTER STRAIGHT Ub SMALLpb CAPITAL LETTER STRAIGHT U WITH STROKEb SMALLr",
      "b CAPITAL LETTER HA WITH DESCENDERb SMALLqb CAPITAL LIGATURE TE TSEb SMALLp",
      "b CAPITAL LETTER CHE WITH DESCENDERb SMALLqb CAPITAL LETTER CHE WITH VERTICAL STROKE",
      "b SMALLrb CAPITAL LETTER SHHAb SMALLob CAPITAL LETTER ABKHASIAN CHEb SMALLp",
      "b CAPITAL LETTER ABKHASIAN CHE WITH DESCENDERb SMALLrb LETTER PALOCHKA",
      "b CAPITAL LETTER ZHE WITH BREVEb SMALLqb CAPITAL LETTER KA WITH HOOKb SMALLq",
      "b CAPITAL LETTER EL WITH TAILb SMALLqb CAPITAL LETTER EN WITH HOOKb SMALLq",
      "b CAPITAL LETTER EN WITH TAILb SMALLqb CAPITAL LETTER KHAKASSIAN CHEb SMALLp",
      "b CAPITAL LETTER EM WITH TAILb SMALLqd PALOCHKAb CAPITAL LETTER A WITH BREVEb SMALLq",
      "b CAPITAL LETTER A WITH DIAERESISb SMALLqb CAPITAL LIGATURE A IEb SMALLp",
      "b CAPITAL LETTER IE WITH BREVEb SMALLqb CAPITAL LETTER SCHWAb SMALLo",
      "b CAPITAL LETTER SCHWA WITH DIAERESISb SMALLqb CAPITAL LETTER ZHEob SMALLq",
      "b CAPITAL LETTER ZEob SMALLqb CAPITAL LETTER ABKHASIAN DZEb SMALLp",
      "b CAPITAL LETTER I WITH MACRONb SMALLqb CAPITAL LETTER I WITH DIAERESISb SMALLq",
      "b CAPITAL LETTER Oob SMALLqb CAPITAL LETTER BARRED Ob SMALLp",
      "b CAPITAL LETTER BARRED O WITH DIAERESISb SMALLrb CAPITAL LETTER Eob SMALLq",
      "b CAPITAL LETTER U WITH MACRONb SMALLqb CAPITAL LETTER U WITH DIAERESISb SMALLq",
      "b CAPITAL LETTER U WITH DOUBLE ACUTEb SMALLrb CAPITAL LETTER CHE WITH DIAERESISb SMALLq",
      "b CAPITAL LETTER GHE WITH DESCENDERb SMALLqb CAPITAL LETTER YERU WITH DIAERESISb SMALLq",
      "b CAPITAL LETTER GHE WITH STROKE AND HOOKb SMALLsb CAPITAL LETTER HA WITHnb SMALLq",
      "b CAPITAL LETTER HA WITH STROKEb SMALLqb CAPITAL LETTER KOMI DEb SMALLp",
      "b CAPITAL LETTER KOMI DJEb SMALLpb CAPITAL LETTER KOMI ZJEb SMALLp",
      "b CAPITAL LETTER KOMI DZJEb SMALLpb CAPITAL LETTER KOMI LJEb SMALLp",
      "b CAPITAL LETTER KOMI NJEb SMALLpb CAPITAL LETTER KOMI SJEb SMALLp",
      "b CAPITAL LETTER KOMI TJEb SMALLpb CAPITAL LETTER REVERSED ZEb SMALLp",
      "b CAPITAL LETTER EL WITH HOOKb SMALLqb CAPITAL LETTER LHAb SMALLob CAPITAL LETTER RHA",
      "b SMALLob CAPITAL LETTER YAEb SMALLob CAPITAL LETTER QAb SMALLob CAPITAL LETTER WE",
      "b SMALLob CAPITAL LETTER ALEUT KAb SMALLpb CAPITAL LETTER EL WITH MIDDLE HOOKb SMALLr",
      "b CAPITAL LETTER ENpb SMALLrb CAPITAL LETTER PE WITH DESCENDERb SMALLq",
      "b CAPITAL LETTER SHHAob SMALLqb CAPITAL LETTER EN WITH LEFT HOOKb SMALLr",
      "b CAPITAL LETTER DZZHEb SMALLob CAPITAL LETTER DCHEb SMALLo",
      "b CAPITAL LETTER EL WITH DESCENDERb SMALLq"]⟩,
   ⟨0x531, ["aARMENIAN CAPITAL LETTER AYBd BENd GIMd DAd ECHd ZAd EHd ETd TOd ZHEd INId LIWN",
      "d XEHd CAd KENd HOd JAd GHADd CHEHd MENd YId NOWd SHAd VOd CHAd PEHd JHEHd RAd SEHd VEW",
      "d TIWNd REHd COd YIWNd PIWRd KEHd OHd FEH"]⟩,
   ⟨0x559, ["aARMENIAN MODIFIER LETTER LEFT HALF RINGb APOSTROPHEb EMPHASIS MARKb EXCLAMATIONn",
      "b COMMAb QUESTION MARKb ABBREVIATIONnb SMALL LETTER TURNED AYBdnd BENd GIMd DAd ECHd ZA",
      "d EHd ETd TOd ZHEd INId LIWNd XEHd CAd KENd HOd JAd GHADd CHEHd MENd YId NOWd SHAd VO",
      "d CHAd PEHd JHEHd RAd SEHd VEWd TIWNd REHd COd YIWNd PIWRd KEHd OHd FEH",
      "c LIGATURE ECH YIWNc LETTER YI WITH STROKEb FULL STOPb HYPHEN"]⟩,
   ⟨0x58d, ["aRIGHT-FACING ARMENIAN ETERNITY SIGNaLEFTqaARMENIAN DRAMn"]⟩,
   ⟨0x591, ["aHEBREW ACCENT ETNAHTAc SEGOLc SHALSHELETc ZAQEF QATANd GADOLc TIPEHAc REVIAc ZARQA",
      "c PASHTAc YETIVc TEVIRc GERESHd MUQDAMc GERSHAYIMc QARNEY PARAc TELISHA GEDOLAc PAZER",
      "c ATNAH HAFUKHc MUNAHc MAHAPAKHc MERKHAd KEFULAc DARGAc QADMAc TELISHA QETANA",
      "c YERAH BEN YOMOc OLEc ILUYc DEHIc ZINORb MARK MASORA CIRCLEb POINT SHEVAc HATAF SEGOL",
      "d PATAHd QAMATSc HIRIQc TSEREc SEGOLc PATAHc QAMATSc HOLAMd HASER FOR VAVc QUBUTS",
      "c DAGESH OR MAPIQc METEGb PUNCTUATION MAQAFb POINT RAFEb PUNCTUATION PASEQ",
      "b POINT SHIN DOTc SINnb PUNCTUATION SOF PASUQb MARK UPPER DOTc LOWERn",
      "b PUNCTUATION NUN HAFUKHAb POINT QAMATS QATAN"]⟩,
   ⟨0x5d0, ["aHEBREW LETTER ALEFc BETc GIMELc DALETc HEc VAVc ZAYINc HETc TETc YODc FINAL KAFcn",
      "c LAMEDc FINAL MEMcnc FINAL NUNcnc SAMEKHc AYINc FINAL PEcnc FINAL TSADIcnc QOFc RESH",
      "c SHINc TAV"]⟩,
   ⟨0x5ef, ["aHEBREW YOD TRIANGLEb LIGATURE YIDDISH DOUBLE VAVd VAV YODd DOUBLEn",
      "b PUNCTUATION GERESHc GERSHAYIM"]⟩,
   ⟨0x600, ["aARABIC NUMBER SIGNb SIGN SANAHb FOOTNOTE MARKERb SIGN SAFHAc SAMVAT",
      "b NUMBER MARK ABOVEb-INDIC CUBE ROOTc FOURTHnb RAYb-INDIC PER MILLE SIGNd TEN THOUSANDn",
      "aAFGHANInaARABIC COMMAb DATE SEPARATORb POETIC VERSE SIGNb SIGN MISRA",
      "c SALLALLAHOU ALAYHE WASSALLAMc ALAYHE ASSALLAMc RAHMATULLAH ALAYHEc RADI ALLAHOU ANHU",
      "c TAKHALLUSb SMALL HIGH TAHd LIGATURE ALEF WITH LAM WITH YEHd ZAINc FATHAc DAMMAc KASRA",
      "b SEMICOLONb LETTER MARKb END OF TEXTnb TRIPLE DOT PUNCTUATIONnb QUESTIONn",
      "b LETTER KASHMIRI YEHc HAMZAc ALEF WITH MADDA ABOVEe HAMZAnc WAWpc ALEF WITH HAMZA BELOW",
      "c YEH WITH HAMZA ABOVEc ALEFc BEHc TEH MARBUTAdc THEHc JEEMc HAHc KHAHc DALc THALc REH",
      "c ZAINc SEENc SHEENc SADc DADc TAHc ZAHc AINc GHAINc KEHEH WITH TWO DOTS ABOVE",
      "e THREE DOTS BELOWc FARSI YEH WITH INVERTED Vf TWO DOTS ABOVEf THREEob TATWEEL",
      "b LETTER FEHc QAFc KAFc LAMc MEEMc NOONc HEHc WAWc ALEF MAKSURAc YEHb FATHATANb DAMMATAN",
      "b KASRATANb FATHAb DAMMAb KASRAb SHADDAb SUKUNb MADDAH ABOVEb HAMZAnc BELOW",
      "b SUBSCRIPT ALEFb INVERTED DAMMAb MARK NOON GHUNNAb ZWARAKAYb VOWEL SIGN SMALL V ABOVE",
      "d INVERTEDpd DOT BELOWb REVERSED DAMMAb FATHA WITH TWO DOTSb WAVY HAMZA BELOW",
      "b-INDIC DIGIT ZEROd ONEd TWOd THREEd FOURd FIVEd SIXd SEVENd EIGHTd NINEb PERCENT SIGN",
      "b DECIMAL SEPARATORb THOUSANDSnb FIVE POINTED STARb LETTER DOTLESS BEHd QAF",
      "c SUPERSCRIPT ALEFc ALEF WASLAd WITH WAVY HAMZA ABOVEg BELOWc HIGH HAMZAe ALEFe WAW",
      "c U WITH HAMZA ABOVEc HIGH HAMZA YEHc TTEHc TTEHEHc BEEHc TEH WITH RING",
      "e THREE DOTS ABOVE DOWNWARDSc PEHc TEHEHc BEHEHc HAH WITH HAMZA ABOVEe TWO DOTS VERTICALn",
      "c NYEHc DYEHc HAH WITH THREE DOTS ABOVEc TCHEHc TCHEHEHc DDALc DAL WITH RINGe DOT BELOW",
      "g AND SMALL TAHc DAHALc DDAHALc DULc DAL WITH THREE DOTS ABOVE DOWNWARDSe FOUR DOTS ABOVE",
      "c RREHc REH WITH SMALL Ve RINGe DOT BELOWe SMALL Vne DOT BELOW AND DOT ABOVEe TWO DOTSn",
      "c JEHc REH WITH FOUR DOTS ABOVEc SEEN WITH DOT BELOW AND DOTne THREE DOTS BELOW",
      "h AND THREE DOTS ABOVEc SAD WITH TWO DOTS BELOWe THREE DOTS ABOVEc TAHqc AINq",
      "c DOTLESS FEHc FEH WITH DOT MOVED BELOWfnc VEHc FEH WITH THREE DOTS BELOWc PEHEH",
      "c QAF WITH DOT ABOVEe THREE DOTSnc KEHEHc SWASH KAFc KAF WITH RINGe DOT ABOVEc NG",
      "c KAF WITH THREE DOTS BELOWc GAFd WITH RINGc NGOEHc GAF WITH TWO DOTS BELOWc GUEH",
      "c GAF WITH THREE DOTS ABOVEc LAM WITH SMALL Ve DOT ABOVEe THREE DOTSng BELOW",
      "c NOON WITH DOTnd GHUNNAc RNOONc NOON WITH RINGe THREE DOTS ABOVEc HEH DOACHASHMEE",
      "c TCHEH WITH DOT ABOVEc HEH WITH YEHnd GOALe WITH HAMZA ABOVEc TEH MARBUTA GOAL",
      "c WAW WITH RINGc KIRGHIZ OEcnc Uc YUc KIRGHIZnc WAW WITH TWO DOTS ABOVEc VEc FARSI YEH",
      "c YEH WITH TAILe SMALL Vc WAW WITH DOT ABOVEc Ec YEH WITH THREE DOTS BELOWd BARREE",
      "e WITH HAMZA ABOVEb FULL STOPb LETTER AE",
      "b SMALL HIGH LIGATURE SAD WITH LAM WITH ALEF MAKSURAe QAFrd MEEM INITIAL FORMd LAM ALEF",
      "d JEEMd THREE DOTSd SEENb END OF AYAHb START OF RUB EL HIZBb SMALL HIGH ROUNDED ZERO",
      "d UPRIGHT RECTANGULARnd DOTLESS HEAD OF KHAHd MEEM ISOLATED FORMc LOW SEENc HIGH MADDA",
      "c WAWc YEHc HIGHnd NOONb PLACE OF SAJDAHb EMPTY CENTRE LOW STOPd HIGHn",
      "b ROUNDED HIGH STOP WITH FILLED CENTREb SMALL LOW MEEMb LETTER DAL WITH INVERTED Vc REHp",
      "aEXTENDED ARABIC-INDIC DIGIT ZEROe ONEe TWOe THREEe FOURe FIVEe SIXe SEVENe EIGHTe NINE",
      "aARABIC LETTER SHEEN WITH DOT BELOWc DADpc GHAINpb SIGN SINDHI AMPERSAND",
      "d POSTPOSITION MENb LETTER HEH WITH INVERTED VaSYRIAC END OF PARAGRAPH",
      "b SUPRALINEAR FULL STOPb SUBLINEARob SUPRALINEAR COLONb SUBLINEARnb HORIZONTALn",
      "b COLON SKEWED LEFTd RIGHTb SUPRALINEAR COLON SKEWED LEFTb SUBLINEAR COLON SKEWED RIGHT",
      "b CONTRACTIONb HARKLEAN OBELUSc METOBELUSc ASTERISCUS"]⟩,
   ⟨0x70f, ["aSYRIAC ABBREVIATION MARKb LETTER ALAPHc SUPERSCRIPTnc BETHc GAMALd GARSHUNI",
      "c DALATHc DOTLESS DALATH RISHc HEc WAWc ZAINc HETHc TETHd GARSHUNIc YUDHd HEc KAPH",
      "c LAMADHc MIMc NUNc SEMKATHc FINALnc Ec PEc REVERSEDnc SADHEc QAPHc RISHc SHINc TAW",
      "c PERSIAN BHETHd GHAMALd DHALATHb PTHAHA ABOVEc BELOWc DOTTEDb ZQAPHA ABOVEc BELOW",
      "c DOTTEDb RBASA ABOVEc BELOWb DOTTED ZLAMA HORIZONTALd ANGULARb HBASA ABOVEc BELOW",
      "c-ESASA DOTTEDb ESASA ABOVEc BELOWb RWAHAb FEMININE DOTb QUSHSHAYAb RUKKAKHA",
      "b TWO VERTICAL DOTS ABOVEe BELOWb THREE DOTS ABOVEd BELOWb OBLIQUE LINE ABOVEd BELOW",
      "b MUSICb BARREKH"]⟩,
   ⟨0x74d, ["aSYRIAC LETTER SOGDIAN ZHAINd KHAPHd FE",
      "aARABIC LETTER BEH WITH THREE DOTS HORIZONTALLY BELOWe DOT BELOW AND THREE DOTS ABOVE",
      "e THREE DOTS POINTING UPWARDS BELOWj AND TWO DOTS ABOVEe TWO DOTS BELOW AND DOTn",
      "e INVERTED SMALL V BELOWe SMALL Vc HAH WITH TWO DOTS ABOVE",
      "e THREE DOTS POINTING UPWARDS BELOWc DAL WITH TWO DOTS VERTICALLY BELOW AND SMALL TAH",
      "e INVERTED SMALL V BELOWc REH WITH STROKEc SEEN WITH FOUR DOTS ABOVEc AIN WITH TWOo",
      "e THREE DOTS POINTING DOWNWARDSne TWO DOTS VERTICALLYnc FEH WITH TWO DOTS BELOW",
      "e THREE DOTS POINTING UPWARDSnc KEHEH WITH DOT ABOVEe THREE DOTSng POINTING UPWARDS BELOW",
      "c MEEM WITH DOT ABOVEf BELOWc NOON WITH TWO DOTSne SMALL TAHf Vc LAM WITH BAR",
      "c REH WITH TWO DOTS VERTICALLY ABOVEe HAMZAnc SEEN WITH TWO DOTS VERTICALLYn",
      "c HAH WITH SMALL ARABIC LETTER TAH BELOWi AND TWO DOTSc SEENuc REHu",
      "c HAH WITH SMALL ARABIC LETTER TAH ABOVEc ALEF WITH EXTENDED ARABIC-INDIC DIGIT TWOn",
      "i THREEnc FARSI YEH WITH EXTENDED ARABIC-INDIC DIGIT TWOnj THREEnj FOUR BELOW",
      "c WAW WITH EXTENDED ARABIC-INDIC DIGIT TWO ABOVEi THREEn",
      "c YEH BARREE WITH EXTENDED ARABIC-INDIC DIGIT TWOnj THREEn",
      "c HAH WITH EXTENDED ARABIC-INDIC DIGIT FOUR BELOW",
      "c SEEN WITH EXTENDED ARABIC-INDIC DIGIT FOUR ABOVEe INVERTED Vc KAF WITH TWO DOTS ABOVE",
      "aTHAANA LETTER HAAc SHAVIYANIc NOONUc RAAc BAAc LHAVIYANIc KAAFUc ALIFUc VAAVUc MEEMU",
      "c FAAFUc DHAALUc THAAc LAAMUc GAAFUc GNAVIYANIc SEENUc DAVIYANIc ZAVIYANIc TAVIYANIc YAA",
      "c PAVIYANIc JAVIYANIc CHAVIYANIc TTAAc HHAAc KHAAc THAALUc ZAAc SHEENUc SAADHUc DAADHU",
      "c TOc ZOc AINUc GHAINUc QAAFUc WAAVUb ABAFILIb AABAAFILIb IBIFILIb EEBEEFILIb UBUFILI",
      "b OOBOOFILIb EBEFILIb EYBEYFILIb OBOFILIb OABOAFILIb SUKUNb LETTER NAA"]⟩,
   ⟨0x7c0, ["aNKO DIGIT ZEROc ONEc TWOc THREEc FOURc FIVEc SIXc SEVENc EIGHTc NINEb LETTER Ac EE",
      "c Ic Ec Uc OOc Oc DAGBASINNAc Nc BAc PAc TAc JAc CHAc DAc RAc RRAc SAc GBAc FAc KAc LA",
      "c NA WOLOSOc MAc NYAc NAc HAc WAc YAc NYA WOLOSOc JONA JAd CHAd RA",
      "b COMBINING SHORT HIGH TONEd LOWnd RISINGnc LONG DESCENDINGnd HIGHnd LOWnd RISINGn",
      "c NASALIZATION MARKc DOUBLE DOT ABOVEb HIGH TONE APOSTROPHEb LOWob SYMBOL OO DENNEN",
      "c GBAKURUNENb COMMAb EXCLAMATION MARKb LAJANYALAN"]⟩,
   ⟨0x7fd, ["aNKO DANTAYALANb DOROME SIGNb TAMANn"]⟩]

end QueryDepth
