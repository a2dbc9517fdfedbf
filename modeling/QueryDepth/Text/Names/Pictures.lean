import QueryDepth.Text.NamedRun

/-! Names of musical and mathematical signs, pictures, tags and selectors. -/
namespace QueryDepth

def pictureRuns : List NamedRun :=
  [⟨0x1d000, ["aBYZANTINE MUSICAL SYMBOL PSILId DASEIAd PERISPOMENId OXEIA EKFONITIKONe DIPLI",
      "d VAREIA EKFONITIKONe DIPLId KATHISTId SYRMATIKId PARAKLITIKId YPOKRISISe DIPLId KREMASTI",
      "d APESO EKFONITIKONd EXOnd TELEIAd KENTIMATAd APOSTROFOSe DIPLId SYNEVMAd THITA",
      "d OLIGON ARCHAIONd GORGONnd PSILONd CHAMILONd VATHYd ISON ARCHAIONd KENTIMAnd KENTIMATAn",
      "d SAXIMATAd PARICHONd STAVROS APODEXIAd OXEIAI ARCHAIONd VAREIAInd APODERMAnd APOTHEMA",
      "d KLASMAd REVMAd PIASMA ARCHAIONd TINAGMAd ANATRICHISMAd SEISMAd SYNAGMA ARCHAION",
      "e META STAVROUd OYRANISMA ARCHAIONd THEMAd LEMOId DYOd TRIAd TESSERAd KRATIMATA",
      "d APESO EXO NEOd FTHORA ARCHAIONd IMIFTHORAd TROMIKON ARCHAIONd KATAVA TROMIKONd PELASTON",
      "d PSIFISTONd KONTEVMAd CHOREVMA ARCHAIONd RAPISMAd PARAKALESMA ARCHAIONd PARAKLITIKIn",
      "d ICHADINd NANAd PETASMAd KONTEVMA ALLOd TROMIKONnd STRAGGISMATAd GRONTHISMATAd ISON NEO",
      "d OLIGONnd OXEIAnd PETASTId KOUFISMAd PETASTOKOUFISMAd KRATIMOKOUFISMAd PELASTON NEO",
      "d KENTIMATA NEO ANOd KENTIMAod YPSILId APOSTROFOS NEOd APOSTROFOI SYNDESMOSnd YPORROI",
      "d KRATIMOYPORROONd ELAFRONd CHAMILId MIKRON ISONd VAREIA NEOd PIASMAnd PSIFISTONnd OMALON",
      "d ANTIKENOMAd LYGISMAd PARAKLITIKI NEOd PARAKALESMAnd ETERON PARAKALESMAd KYLISMA",
      "d ANTIKENOKYLISMAd TROMIKON NEOd EKSTREPTONd SYNAGMA NEOd SYRMAd CHOREVMA NEOd EPEGERMA",
      "d SEISMA NEOd XIRON KLASMAd TROMIKOPSIFISTONd PSIFISTOLYGISMAd TROMIKOLYGISMA",
      "d TROMIKOPARAKALESMAd PSIFISTOPARAKALESMAd TROMIKOSYNAGMAd PSIFISTOSYNAGMA",
      "d GORGOSYNTHETONd ARGOSYNTHETONd ETERONnd OYRANISMA NEOd THEMATISMOS ESOe EXO",
      "d THEMA APLOUNd THES KAI APOTHESd KATAVASMAd ENDOFONONd YFEN KATOe ANOd STAVROS",
      "d KLASMA ANOd DIPLI ARCHAIONd KRATIMAne ALLOe NEOd APODERMAnd APLId DIPLId TRIPLI",
      "d TETRAPLId KORONISd LEIMMA ENOS CHRONOUe DYO CHRONONe TRIONne TESSARONne IMISEOS CHRONOU",
      "d GORGON NEO ANOe PARESTIGMENON ARISTERAf DEXIAd DIGORGONe PARESTIGMENON ARISTERA KATO",
      "g ANOf DEXIAd TRIGORGONd ARGONd IMIDIARGONd DIARGONd AGOGI POLI ARGIe ARGOTERIe ARGI",
      "e METRIAe MESIe GORGIe GORGOTERIe POLI GORGId MARTYRIA PROTOS ICHOSe ALLIoe DEYTEROSn",
      "e ALLIoe TRITOSne TRIFONIASe TETARTOS ICHOSf LEGETOSneoe PLAGIOSn",
      "d ISAKIA TELOUS ICHIMATOSd APOSTROFOIod FANEROSIS TETRAFONIASe MONOFONIASe DIFONIAS",
      "d MARTYRIA VARYS ICHOSe PROTOVARYSne PLAGIOS TETARTOSnd GORTHMIKON N APLOUNf DIPLOUN",
      "d ENARXIS KAI FTHORA VOUd IMIFONONd IMIFTHORONd FTHORA ARCHAION DEYTEROU ICHOU",
      "e DIATONIKI PAf NANAe NAOS ICHOSe DIATONIKI DIe SKLIRON DIATONONne DIATONIKI KEf ZO",
      "f NI KATOg ANOe MALAKON CHROMA DIFONIASg MONOFONIASd FHTORA SKLIRON CHROMA VASIS",
      "d FTHORA SKLIRON CHROMA SYNAFIe NENANOd CHROA ZYGOSe KLITONe SPATHI",
      "d FTHORA I YFESIS TETARTIMORIONe ENARMONIOS ANTIFONIAd YFESIS TRITIMORIONd DIESISn",
      "e TETARTIMORIONe APLI DYO DODEKATAe MONOGRAMMOS TESSERAne DIGRAMMOS EXne TRIGRAMMOS OKTOn",
      "d YFESIS APLI DYOne MONOGRAMMOS TESSERAne DIGRAMMOS EXne TRIGRAMMOS OKTOnd GENIKI DIESIS",
      "e YFESISd DIASTOLI APLI MIKRIf MEGALIe DIPLIe THESEOSd SIMANSISnf DISIMOUf TRISIMOU",
      "f TETRASIMOUe ARSEOSf DISIMOUf TRISIMOUf TETRASIMOUd DIGRAMMA GGd DIFTOGGOS OUd STIGMA",
      "d ARKTIKO PAe VOUe GAe DIe KEe ZOe NId KENTIMATA NEO MESOd KENTIMAod KENTIMATA NEO KATO",
      "d KENTIMAod KLASMAnd GORGON NEOn"]⟩,
   ⟨0x1d100, ["aMUSICAL SYMBOL SINGLE BARLINEc DOUBLEnc FINALnc REVERSEoc DASHEDnc SHORTn",
      "c LEFT REPEAT SIGNc RIGHToc REPEAT DOTSc DAL SEGNOc DA CAPOc SEGNOc CODA",
      "c REPEATED FIGURE-1e-2e-3c FERMATAd BELOWc BREATH MARKc CAESURAc BRACEc BRACKET",
      "c ONE-LINE STAFFc TWOoc THREEoc FOURoc FIVEoc SIXod-STRING FRETBOARDc FOURoc G CLEF",
      "e OTTAVA ALTAf BASSAc C CLEFc Fne OTTAVA ALTAf BASSAc DRUM CLEF-1e-2"]⟩,
   ⟨0x1d129, ["aMUSICAL SYMBOL MULTIPLE MEASURE RESTc DOUBLE SHARPd FLATc FLAT UPd DOWN",
      "c NATURAL UPd DOWNc SHARP UPd DOWNc QUARTER TONE SHARPe FLATc COMMON TIMEc CUTn",
      "c OTTAVA ALTAd BASSAc QUINDICESIMA ALTAd BASSAc MULTI RESTc WHOLEnc HALFnc QUARTERn",
      "c EIGHTHnc SIXTEENTHnc THIRTY-SECONDnc SIXTY-FOURTHnc ONE HUNDRED TWENTY-EIGHTHn",
      "c X NOTEHEADc PLUSnc CIRCLE Xnc SQUARE NOTEHEAD WHITEe BLACKc TRIANGLE NOTEHEAD UP WHITE",
      "f BLACKe LEFT WHITEf BLACKe RIGHT WHITEf BLACKe DOWN WHITEf BLACKe UP RIGHT WHITEg BLACK",
      "c MOON NOTEHEAD WHITEe BLACKc TRIANGLE-ROUND NOTEHEAD DOWN WHITEg BLACK",
      "c PARENTHESIS NOTEHEADc VOIDnc NOTEHEAD BLACKc NULL NOTEHEADc CLUSTER NOTEHEAD WHITE",
      "e BLACKc BREVEc WHOLE NOTEc HALFnc QUARTERnc EIGHTHnc SIXTEENTHnc THIRTY-SECONDn",
      "c SIXTY-FOURTHnc ONE HUNDRED TWENTY-EIGHTHnc COMBINING STEMd SPRECHGESANGnd TREMOLO-1e-2",
      "e-3c FINGERED TREMOLO-1e-2e-3c COMBINING AUGMENTATION DOTd FLAG-1e-2e-3e-4e-5c BEGIN BEAM",
      "c ENDnc BEGIN TIEc ENDnc BEGIN SLURc ENDnc BEGIN PHRASEc ENDnc COMBINING ACCENTd STACCATO",
      "d TENUTOd STACCATISSIMOd MARCATOe-STACCATOd ACCENTnd LOUREc ARPEGGIATO UPd DOWN",
      "c COMBINING DOITd RIPd FLIPd SMEARd BENDd DOUBLE TONGUEd TRIPLEnc RINFORZANDOc SUBITOc Z",
      "c PIANOc MEZZOc FORTEc CRESCENDOc DECRESCENDOc GRACE NOTE SLASHe NOnc TRc TURNc INVERTEDn",
      "c TURN SLASHd UPc ORNAMENT STROKE-1e-2e-3e-4e-5e-6e-7e-8e-9e-10e-11c HAUPTSTIMME",
      "c NEBENSTIMMEc END OF STIMMEc DEGREE SLASHc COMBINING DOWN BOWd UPnd HARMONIC",
      "d SNAP PIZZICATOc PEDAL MARKd UPnc HALF PEDALnc GLISSANDO UPd DOWNc WITH FINGERNAILS",
      "c DAMPd ALLc MAXIMAc LONGAc BREVISc SEMIBREVIS WHITEd BLACKc MINIMAd BLACK",
      "c SEMIMINIMA WHITEd BLACKc FUSA WHITEd BLACKc LONGA PERFECTA RESTd IMPERFECTAnc BREVISn",
      "c SEMIBREVISnc MINIMAnc SEMIMINIMAnc TEMPUS PERFECTUM CUM PROLATIONE PERFECTAg IMPERFECTA",
      "g PERFECTA DIMINUTION-1d IMPERFECTUM CUM PROLATIONE PERFECTAg IMPERFECTAh DIMINUTION-1i-2",
      "i-3c CROIXc GREGORIAN C CLEFd Fnc SQUARE Bc VIRGAc PODATUSc CLIVISc SCANDICUSc CLIMACUS",
      "c TORCULUSc PORRECTUSd FLEXUSc SCANDICUSnc TORCULUS RESUPINUSc PES SUBPUNCTIS",
      "c KIEVAN C CLEFd END OF PIECEd FINAL NOTEd RECITATIVE MARKd WHOLE NOTEd HALFn",
      "d QUARTER NOTE STEM DOWNg UPd EIGHTH NOTE STEM DOWNg UPd FLAT SIGNc SORIc KORON"]⟩,
   ⟨0x1d200, ["aGREEK VOCAL NOTATION SYMBOL-1e-2e-3e-4e-5e-6e-7e-8e-9e-10e-11e-12e-13e-14e-15",
      "e-16e-17e-18e-19e-20e-21e-22e-23e-24e-50e-51e-52e-53e-54b INSTRUMENTAL NOTATION SYMBOL-1",
      "e-2e-4e-5e-7e-8e-11e-12e-13e-14e-17e-18e-19e-23e-24e-25e-26e-27e-29e-30e-32e-36e-37e-38",
      "e-39e-40e-42e-43e-45e-47e-48e-49e-50e-51e-52e-53e-54aCOMBINING GREEK MUSICAL TRISEME",
      "d TETRASEMEd PENTASEMEaGREEK MUSICAL LEIMMA"]⟩,
   ⟨0x1d2e0, ["aMAYAN NUMERAL ZEROc ONEc TWOc THREEc FOURc FIVEc SIXc SEVENc EIGHTc NINEc TEN",
      "c ELEVENc TWELVEc THIRTEENc FOURTEENc FIFTEENc SIXTEENc SEVENTEENc EIGHTEENc NINETEEN"]⟩,
   ⟨0x1d300, ["aMONOGRAM FOR EARTHaDIGRAM FOR HEAVENLYnc HUMANnc EARTHLY HEAVENd HUMANc EARTH",
      "aTETRAGRAM FOR CENTREc FULL CIRCLEc MIREDc BARRIERc KEEPING SMALLc CONTRARIETYc ASCENT",
      "c OPPOSITIONc BRANCHING OUTc DEFECTIVENESS OR DISTORTIONc DIVERGENCEc YOUTHFULNESS",
      "c INCREASEc PENETRATIONc REACHc CONTACTc HOLDING BACKc WAITINGc FOLLOWINGc ADVANCE",
      "c RELEASEc RESISTANCEc EASEc JOYc CONTENTIONc ENDEAVOURc DUTIESc CHANGEc DECISIVENESS",
      "c BOLD RESOLUTIONc PACKINGc LEGIONc CLOSENESSc KINSHIPc GATHERINGc STRENGTHc PURITY",
      "c FULLNESSc RESIDENCEc LAW OR MODELc RESPONSEc GOING TO MEETc ENCOUNTERSc STOVE",
      "c GREATNESSc ENLARGEMENTc PATTERNc RITUALc FLIGHTc VASTNESS OR WASTINGc CONSTANCY",
      "c MEASUREc ETERNITYc UNITYc DIMINISHMENTc CLOSED MOUTHc GUARDEDNESSc GATHERING IN",
      "c MASSINGc ACCUMULATIONc EMBELLISHMENTc DOUBTc WATCHc SINKINGc INNERc DEPARTURE",
      "c DARKENINGc DIMMINGc EXHAUSTIONc SEVERANCEc STOPPAGEc HARDNESSc COMPLETIONc CLOSURE",
      "c FAILUREc AGGRAVATIONc COMPLIANCEc ON THE VERGEc DIFFICULTIESc LABOURINGc FOSTERING"]⟩,
   ⟨0x1d360, ["aCOUNTING ROD UNIT DIGIT ONEe TWOe THREEe FOURe FIVEe SIXe SEVENe EIGHTe NINE",
      "c TENS DIGIT ONEe TWOe THREEe FOURe FIVEe SIXe SEVENe EIGHTe NINE",
      "aIDEOGRAPHIC TALLY MARK ONEd TWOd THREEd FOURd FIVEaTALLY MARK ONEc FIVE"]⟩,
   ⟨0x1d400, ["aMATHEMATICAL BOLD CAPITAL Ad Bd Cd Dd Ed Fd Gd Hd Id Jd Kd Ld Md Nd Od Pd Qd R",
      "d Sd Td Ud Vd Wd Xd Yd Zc SMALL Ad Bd Cd Dd Ed Fd Gd Hd Id Jd Kd Ld Md Nd Od Pd Qd Rd S",
      "d Td Ud Vd Wd Xd Yd Zb ITALIC CAPITAL Ad Bd Cd Dd Ed Fd Gd Hd Id Jd Kd Ld Md Nd Od Pd Q",
      "d Rd Sd Td Ud Vd Wd Xd Yd Zc SMALL Ad Bd Cd Dd Ed Fd G"]⟩,
   ⟨0x1d456, ["aMATHEMATICAL ITALIC SMALL Id Jd Kd Ld Md Nd Od Pd Qd Rd Sd Td Ud Vd Wd Xd Yd Z",
      "b BOLD ITALIC CAPITAL Ae Be Ce De Ee Fe Ge He Ie Je Ke Le Me Ne Oe Pe Qe Re Se Te Ue Ve W",
      "e Xe Ye Zd SMALL Ae Be Ce De Ee Fe Ge He Ie Je Ke Le Me Ne Oe Pe Qe Re Se Te Ue Ve We X",
      "e Ye Zb SCRIPT CAPITAL A"]⟩,
   ⟨0x1d49e, ["aMATHEMATICAL SCRIPT CAPITAL Cd D"]⟩,
   ⟨0x1d4a2, ["aMATHEMATICAL SCRIPT CAPITAL G"]⟩,
   ⟨0x1d4a5, ["aMATHEMATICAL SCRIPT CAPITAL Jd K"]⟩,
   ⟨0x1d4a9, ["aMATHEMATICAL SCRIPT CAPITAL Nd Od Pd Q"]⟩,
   ⟨0x1d4ae, ["aMATHEMATICAL SCRIPT CAPITAL Sd Td Ud Vd Wd Xd Yd Zc SMALL Ad Bd Cd D"]⟩,
   ⟨0x1d4bb, ["aMATHEMATICAL SCRIPT SMALL F"]⟩,
   ⟨0x1d4bd, ["aMATHEMATICAL SCRIPT SMALL Hd Id Jd Kd Ld Md N"]⟩,
   ⟨0x1d4c5, ["aMATHEMATICAL SCRIPT SMALL Pd Qd Rd Sd Td Ud Vd Wd Xd Yd Zb BOLD SCRIPT CAPITAL A",
      "e Be Ce De Ee Fe Ge He Ie Je Ke Le Me Ne Oe Pe Qe Re Se Te Ue Ve We Xe Ye Zd SMALL Ae B",
      "e Ce De Ee Fe Ge He Ie Je Ke Le Me Ne Oe Pe Qe Re Se Te Ue Ve We Xe Ye Z",
      "b FRAKTUR CAPITAL Ad B"]⟩,
   ⟨0x1d507, ["aMATHEMATICAL FRAKTUR CAPITAL Dd Ed Fd G"]⟩,
   ⟨0x1d50d, ["aMATHEMATICAL FRAKTUR CAPITAL Jd Kd Ld Md Nd Od Pd Q"]⟩,
   ⟨0x1d516, ["aMATHEMATICAL FRAKTUR CAPITAL Sd Td Ud Vd Wd Xd Y"]⟩,
   ⟨0x1d51e, ["aMATHEMATICAL FRAKTUR SMALL Ad Bd Cd Dd Ed Fd Gd Hd Id Jd Kd Ld Md Nd Od Pd Qd R",
      "d Sd Td Ud Vd Wd Xd Yd Zb DOUBLE-STRUCK CAPITAL Ae B"]⟩,
   ⟨0x1d53b, ["aMATHEMATICAL DOUBLE-STRUCK CAPITAL De Ee Fe G"]⟩,
   ⟨0x1d540, ["aMATHEMATICAL DOUBLE-STRUCK CAPITAL Ie Je Ke Le M"]⟩,
   ⟨0x1d546, ["aMATHEMATICAL DOUBLE-STRUCK CAPITAL O"]⟩,
   ⟨0x1d54a, ["aMATHEMATICAL DOUBLE-STRUCK CAPITAL Se Te Ue Ve We Xe Y"]⟩,
   ⟨0x1d552, ["aMATHEMATICAL DOUBLE-STRUCK SMALL Ae Be Ce De Ee Fe Ge He Ie Je Ke Le Me Ne Oe P",
      "e Qe Re Se Te Ue Ve We Xe Ye Zb BOLD FRAKTUR CAPITAL Ae Be Ce De Ee Fe Ge He Ie Je Ke L",
      "e Me Ne Oe Pe Qe Re Se Te Ue Ve We Xe Ye Zd SMALL Ae Be Ce De Ee Fe Ge He Ie Je Ke Le M",
      "e Ne Oe Pe Qe Re Se Te Ue Ve We Xe Ye Zb SANS-SERIF CAPITAL Ae Be Ce De Ee Fe Ge He Ie J",
      "e Ke Le Me Ne Oe Pe Qe Re Se Te Ue Ve We Xe Ye Zd SMALL Ae Be Ce De Ee Fe Ge He Ie Je K",
      "e Le Me Ne Oe Pe Qe Re Se Te Ue Ve We Xe Ye Zd BOLD CAPITAL Af Bf Cf Df Ef Ff Gf Hf If J",
      "f Kf Lf Mf Nf Of Pf Qf Rf Sf Tf Uf Vf Wf Xf Yf Ze SMALL Af Bf Cf Df Ef Ff Gf Hf If Jf K",
      "f Lf Mf Nf Of Pf Qf Rf Sf Tf Uf Vf Wf Xf Yf Zd ITALIC CAPITAL Af Bf Cf Df Ef Ff Gf Hf I",
      "f Jf Kf Lf Mf Nf Of Pf Qf Rf Sf Tf Uf Vf Wf Xf Yf Ze SMALL Af Bf Cf Df Ef Ff Gf Hf If J",
      "f Kf Lf Mf Nf Of Pf Qf Rf Sf Tf Uf Vf Wf Xf Yf Zd BOLD ITALIC CAPITAL Ag Bg Cg Dg Eg Fg G",
      "g Hg Ig Jg Kg Lg Mg Ng Og Pg Qg Rg Sg Tg Ug Vg Wg Xg Yg Zf SMALL Ag Bg Cg Dg Eg Fg Gg H",
      "g Ig Jg Kg Lg Mg Ng Og Pg Qg Rg Sg Tg Ug Vg Wg Xg Yg Zb MONOSPACE CAPITAL Ad Bd Cd Dd E",
      "d Fd Gd Hd Id Jd Kd Ld Md Nd Od Pd Qd Rd Sd Td Ud Vd Wd Xd Yd Zc SMALL Ad Bd Cd Dd Ed F",
      "d Gd Hd Id Jd Kd Ld Md Nd Od Pd Qd Rd Sd Td Ud Vd Wd Xd Yd Zb ITALIC SMALL DOTLESS Ie J"]⟩,
   ⟨0x1d6a8, ["aMATHEMATICAL BOLD CAPITAL ALPHAd BETAd GAMMAd DELTAd EPSILONd ZETAd ETAd THETA",
      "d IOTAd KAPPAd LAMDAd MUd NUd XId OMICRONd PId RHOd THETA SYMBOLd SIGMAd TAUd UPSILON",
      "d PHId CHId PSId OMEGAc NABLAc SMALL ALPHAd BETAd GAMMAd DELTAd EPSILONd ZETAd ETAd THETA",
      "d IOTAd KAPPAd LAMDAd MUd NUd XId OMICRONd PId RHOd FINAL SIGMAdnd TAUd UPSILONd PHId CHI",
      "d PSId OMEGAc PARTIAL DIFFERENTIALc EPSILON SYMBOLc THETAnc KAPPAnc PHInc RHOnc PIn",
      "b ITALIC CAPITAL ALPHAd BETAd GAMMAd DELTAd EPSILONd ZETAd ETAd THETAd IOTAd KAPPAd LAMDA",
      "d MUd NUd XId OMICRONd PId RHOd THETA SYMBOLd SIGMAd TAUd UPSILONd PHId CHId PSId OMEGA",
      "c NABLAc SMALL ALPHAd BETAd GAMMAd DELTAd EPSILONd ZETAd ETAd THETAd IOTAd KAPPAd LAMDA",
      "d MUd NUd XId OMICRONd PId RHOd FINAL SIGMAdnd TAUd UPSILONd PHId CHId PSId OMEGA",
      "c PARTIAL DIFFERENTIALc EPSILON SYMBOLc THETAnc KAPPAnc PHInc RHOnc PIn",
      "b BOLD ITALIC CAPITAL ALPHAe BETAe GAMMAe DELTAe EPSILONe ZETAe ETAe THETAe IOTAe KAPPA",
      "e LAMDAe MUe NUe XIe OMICRONe PIe RHOe THETA SYMBOLe SIGMAe TAUe UPSILONe PHIe CHIe PSI",
      "e OMEGAd NABLAd SMALL ALPHAe BETAe GAMMAe DELTAe EPSILONe ZETAe ETAe THETAe IOTAe KAPPA",
      "e LAMDAe MUe NUe XIe OMICRONe PIe RHOe FINAL SIGMAene TAUe UPSILONe PHIe CHIe PSIe OMEGA",
      "d PARTIAL DIFFERENTIALd EPSILON SYMBOLd THETAnd KAPPAnd PHInd RHOnd PIn",
      "b SANS-SERIF BOLD CAPITAL ALPHAf BETAf GAMMAf DELTAf EPSILONf ZETAf ETAf THETAf IOTA",
      "f KAPPAf LAMDAf MUf NUf XIf OMICRONf PIf RHOf THETA SYMBOLf SIGMAf TAUf UPSILONf PHIf CHI",
      "f PSIf OMEGAe NABLAe SMALL ALPHAf BETAf GAMMAf DELTAf EPSILONf ZETAf ETAf THETAf IOTA",
      "f KAPPAf LAMDAf MUf NUf XIf OMICRONf PIf RHOf FINAL SIGMAfnf TAUf UPSILONf PHIf CHIf PSI",
      "f OMEGAe PARTIAL DIFFERENTIALe EPSILON SYMBOLe THETAne KAPPAne PHIne RHOne PIn",
      "e ITALIC CAPITAL ALPHAg BETAg GAMMAg DELTAg EPSILONg ZETAg ETAg THETAg IOTAg KAPPAg LAMDA",
      "g MUg NUg XIg OMICRONg PIg RHOg THETA SYMBOLg SIGMAg TAUg UPSILONg PHIg CHIg PSIg OMEGA",
      "f NABLAf SMALL ALPHAg BETAg GAMMAg DELTAg EPSILONg ZETAg ETAg THETAg IOTAg KAPPAg LAMDA",
      "g MUg NUg XIg OMICRONg PIg RHOg FINAL SIGMAgng TAUg UPSILONg PHIg CHIg PSIg OMEGA",
      "f PARTIAL DIFFERENTIALf EPSILON SYMBOLf THETAnf KAPPAnf PHInf RHOnf PIn",
      "b BOLD CAPITAL DIGAMMAc SMALLn"]⟩,
   ⟨0x1d7ce, ["aMATHEMATICAL BOLD DIGIT ZEROd ONEd TWOd THREEd FOURd FIVEd SIXd SEVENd EIGHT",
      "d NINEb DOUBLE-STRUCK DIGIT ZEROe ONEe TWOe THREEe FOURe FIVEe SIXe SEVENe EIGHTe NINE",
      "b SANS-SERIF DIGIT ZEROe ONEe TWOe THREEe FOURe FIVEe SIXe SEVENe EIGHTe NINE",
      "d BOLD DIGIT ZEROf ONEf TWOf THREEf FOURf FIVEf SIXf SEVENf EIGHTf NINE",
      "b MONOSPACE DIGIT ZEROd ONEd TWOd THREEd FOURd FIVEd SIXd SEVENd EIGHTd NINE",
      "aSIGNWRITING HAND-FIST INDEXc-CIRCLEnc-CUPnc-OVALnc-HINGEnc-ANGLEnc-FIST INDEX BENT",
      "c-CIRCLEoc-FIST THUMB UNDERod INDEX RAISED KNUCKLEe CUPPEDe HINGEDf LOW",
      "c-CIRCLE INDEX HINGEc-FIST INDEX MIDDLEc-CIRCLEoc-FIST INDEX MIDDLE BENTf RAISED KNUCKLES",
      "f HINGEDe UPoe HINGED MIDDLE UPe MIDDLE CONJOINEDg INDEX BENTg MIDDLEng CUPPEDg HINGED",
      "f CROSSEDc-CIRCLEpc-FIST MIDDLE BENT OVER INDEXd INDEX BENT OVER MIDDLEe MIDDLE THUMB",
      "c-CIRCLEpc-FIST INDEX MIDDLE STRAIGHT THUMB BENTf BENT THUMB STRAIGHTf THUMB BENT",
      "f HINGED SPREAD THUMB SIDEe UP MIDDLE HINGEDoi CONJOINEDe HINGED MIDDLE UP THUMB SIDE",
      "e MIDDLE UP SPREAD THUMB FORWARDf THUMB CUPPEDg CIRCLEDg HOOKEDg HINGED",
      "d THUMB BETWEEN INDEX MIDDLE STRAIGHTd INDEX MIDDLE CONJOINED THUMB SIDEi CONJOINEDi BENT",
      "d MIDDLE THUMB HOOKED INDEX UPd INDEX THUMB HOOKED MIDDLEn",
      "e MIDDLE CONJOINED HINGED THUMB SIDEf CROSSEDof CONJOINED THUMB FORWARDg CUPPEDo",
      "d MIDDLE THUMB CUPPED INDEX UPd INDEX THUMB CUPPED MIDDLEnd MIDDLE THUMB CIRCLED INDEXn",
      "h HINGEDd INDEX THUMB ANGLED OUT MIDDLE UPg INof CIRCLEDoe MIDDLE THUMB CONJOINED HINGED",
      "g ANGLED OUThd MIDDLE THUMB ANGLED OUT INDEX UPi CROSSEDg INDEX UP",
      "d INDEX THUMB HOOKED MIDDLE HINGEDc-FLAT FOUR FINGERSf BENTf HINGEDf CONJOINEDg SPLIT",
      "c-CLAW FOUR FINGERS CONJOINEDc-FIST FOUR FINGERS CONJOINED BENT",
      "c-HINGE FOUR FINGERS CONJOINEDc-FLAT FIVE FINGERS SPREADd HEELp",
      "d FIVE FINGERS SPREAD FOUR BENTd HEELrd FIVE FINGERS SPREADnd HEELq",
      "d FIVE FINGERS SPREAD THUMB FORWARDc-CUP FIVE FINGERS SPREADg OPENc-HINGEq",
      "c-OVAL FIVE FINGERS SPREADc-FLAT FIVE FINGERS SPREAD HINGEDh THUMB SIDEh NO THUMBd",
      "d BETWEEN PALM FACINGSd HEELd THUMB SIDEd HEELod THUMB BENTe FORWARD",
      "d SPLIT INDEX THUMB SIDEe CENTREf THUMB SIDEh BENTe LITTLEc-CLAWd THUMB SIDEd NO THUMB",
      "d THUMB FORWARDc-HOOK CURLICUEdc-CUP OPENdd OPEN THUMB SIDEdod OPEN NO THUMBdo",
      "d OPEN THUMB FORWARDdoc-CURLICUE OPENdc-CIRCLEc-OVALd THUMB SIDEd NO THUMBd THUMB FORWARD",
      "c-HINGE OPENe THUMB FORWARDdd SMALLd OPEN THUMB SIDEdod OPEN NO THUMBdo",
      "d THUMB SIDE TOUCHING INDEXe BETWEEN MIDDLE RINGc-ANGLEc-FIST INDEX MIDDLE RINGc-CIRCLEp",
      "c-HINGEpc-ANGLEpc-HINGE LITTLEc-FIST INDEX MIDDLE RING BENTg CONJOINEDc-HINGEq",
      "c-FIST LITTLE DOWNf RIPPLE STRAIGHTg CURVEDf OTHERS CIRCLEDe UPd THUMB UNDERoc-CIRCLEo",
      "c-OVALoc-ANGLEoc-FIST LITTLE RAISED KNUCKLEe BENTe TOUCHES THUMBenc-HINGEo",
      "c-FIST LITTLE INDEXnc-HINGEpc-ANGLE LITTLE INDEX THUMB INDEX THUMB OUTi",
      "c-FIST LITTLE INDEXc-CIRCLEoc-HINGEoc-ANGLEoc-FIST INDEX MIDDLE LITTLEc-CIRCLEpc-HINGEp",
      "d RINGc-ANGLE INDEX MIDDLE LITTLEc-FIST INDEX MIDDLE CROSSnc-CIRCLEqc-FIST RING DOWN",
      "c-HINGE RING DOWN INDEX THUMB HOOK MIDDLEc-ANGLE RING DOWN MIDDLE THUMB INDEX CROSS",
      "c-FIST RING UPe RAISED KNUCKLEe LITTLEc-CIRCLEoc-OVALoc-ANGLEoc-FIST RING MIDDLE",
      "f CONJOINEDf RAISED KNUCKLESe INDEXe THUMBc-HOOKoc-FIST INDEX RING LITTLEc-CIRCLEp",
      "c-CURLICUE INDEX RING LITTLE ONc-HOOK INDEX RING LITTLE OUTg INg UNDER",
      "c-CUP INDEX RING LITTLEc-HINGEpc-ANGLE INDEX RING LITTLE OUTgc-FIST MIDDLE DOWN",
      "c-HINGE MIDDLEc-FIST MIDDLE UPc-CIRCLEoc-FIST MIDDLE RAISED KNUCKLEe UP THUMB SIDE",
      "c-HOOK MIDDLE THUMBc-FIST MIDDLE THUMB LITTLEene RINGnc-CIRCLEp",
      "c-CURLICUE MIDDLE RING LITTLE ONc-CUP MIDDLE RING LITTLEc-HINGEp",
      "c-ANGLE MIDDLE RING LITTLE OUTg INgc-CIRCLE MIDDLE RING LITTLE BENT",
      "c-CLAW MIDDLE RING LITTLE CONJOINEDh SIDEc-HOOK MIDDLE RING LITTLE CONJOINED OUTh INh",
      "c-HINGE INDEX HINGEDc-FIST INDEX THUMB SIDEc-HINGEpc-FIST INDEX THUMB SIDE THUMB DIAGONAL",
      "h CONJOINEDh BENTg INDEXng BOTHng INDEX HINGEf FORWARD INDEX STRAIGHTh BENTf HOOK",
      "f CURLICUEf CURVE THUMB INSIDEc-CLAWrc-FIST INDEX THUMB CURVE THUMB UNDERf CIRCLE",
      "c-CUP INDEX THUMBf OPENc-HINGEpf LARGEff SMALLc-ANGLE INDEX THUMB OUTf INfc-FISTne HEEL",
      "e SIDE DIAGONALf CONJOINEDf BENTe FORWARDe BETWEEN INDEX MIDDLEf MIDDLE RINGf RING LITTLE",
      "e UNDER TWO FINGERSe OVERoe UNDER THREEnf FOURne OVER FOUR RAISED KNUCKLESdd HEEL",
      "b TOUCH SINGLEc MULTIPLEc BETWEENb GRASP SINGLEc MULTIPLEc BETWEENb STRIKE SINGLE",
      "c MULTIPLEc BETWEENb BRUSH SINGLEc MULTIPLEc BETWEENb RUB SINGLEc MULTIPLEc BETWEEN",
      "b SURFACE SYMBOLSc BETWEENb SQUEEZE LARGE SINGLEc SMALLnc LARGE MULTIPLEc SMALLn",
      "c SEQUENTIALb FLICK LARGE SINGLEc SMALLnc LARGE MULTIPLEc SMALLnc SEQUENTIAL",
      "b SQUEEZE FLICK ALTERNATINGb MOVEMENT-HINGE UP DOWN LARGEf SMALLe SEQUENTIALd DOWNn",
      "d UP DOWN ALTERNATING LARGEg SMALLd SIDE TO SIDE SCISSORSc-WALLPLANE FINGER CONTACT",
      "c-FLOORPLANEoc-WALLPLANE SINGLE STRAIGHT SMALLf MEDIUMf LARGEf LARGESTe WRIST FLEX",
      "d DOUBLE STRAIGHTe WRIST FLEXe ALTERNATINGf WRIST FLEXd CROSSd TRIPLE STRAIGHT MOVEMENT",
      "e WRIST FLEXe ALTERNATINGf WRIST FLEXd BEND SMALLe MEDIUMe LARGEd CORNER SMALLe MEDIUM",
      "e LARGEe ROTATIONd CHECK SMALLe MEDIUMe LARGEd BOX SMALLe MEDIUMe LARGEd ZIGZAG SMALL",
      "e MEDIUMe LARGEd PEAKS SMALLe MEDIUMe LARGEb TRAVEL-WALLPLANE ROTATION-WALLPLANE SINGLE",
      "f DOUBLEf ALTERNATINGe-FLOORPLANE SINGLEf DOUBLEf ALTERNATINGd SHAKINGd ARM SPIRAL SINGLE",
      "f DOUBLEf TRIPLEb MOVEMENT-DIAGONAL AWAY SMALLe MEDIUMe LARGEe LARGESTd TOWARDS SMALL",
      "e MEDIUMe LARGEe LARGESTd BETWEEN AWAY SMALLf MEDIUMf LARGEf LARGESTe TOWARDS SMALL",
      "f MEDIUMf LARGEf LARGESTc-FLOORPLANE SINGLE STRAIGHT SMALLf MEDIUMf LARGEf LARGEST",
      "e WRIST FLEXd DOUBLE STRAIGHTe WRIST FLEXe ALTERNATINGf WRIST FLEXd CROSS",
      "d TRIPLE STRAIGHT MOVEMENTe WRIST FLEXe ALTERNATING MOVEMENTf WRIST FLEXd BEND",
      "d CORNER SMALLe MEDIUMe LARGEd CHECKd BOX SMALLe MEDIUMe LARGEd ZIGZAG SMALLe MEDIUM",
      "e LARGEd PEAKS SMALLe MEDIUMe LARGEb TRAVEL-FLOORPLANE ROTATION-FLOORPLANE SINGLEf DOUBLE",
      "f ALTERNATINGe-WALLPLANE SINGLEf DOUBLEf ALTERNATINGd SHAKING",
      "b MOVEMENT-WALLPLANE CURVE QUARTER SMALLf MEDIUMf LARGEf LARGESTe HALF-CIRCLE SMALL",
      "g MEDIUMg LARGEg LARGESTe THREE-QUARTER CIRCLE SMALLh MEDIUMd HUMP SMALLe MEDIUMe LARGE",
      "d LOOP SMALLe MEDIUMe LARGEe SMALL DOUBLEd WAVE CURVE DOUBLE SMALLg MEDIUMg LARGE",
      "f TRIPLE SMALLg MEDIUMg LARGEd CURVE THEN STRAIGHTd CURVED CROSS SMALLf MEDIUM",
      "b ROTATION-WALLPLANE SINGLEd DOUBLEd ALTERNATEb MOVEMENT-WALLPLANE SHAKING",
      "d CURVE HITTING FRONT WALLd HUMPpd LOOPpd WAVEpb ROTATION-WALLPLANE SINGLEpd DOUBLEp",
      "d ALTERNATINGpb MOVEMENT-WALLPLANE CURVE HITTING CHESTd HUMPod LOOPod WAVEo",
      "b ROTATION-WALLPLANE SINGLEod DOUBLEod ALTERNATINGo",
      "b MOVEMENT-WALLPLANE WAVE DIAGONAL PATH SMALLg MEDIUMg LARGE",
      "c-FLOORPLANE CURVE HITTING CEILING SMALLg LARGEd HUMP HITTING CEILING SMALL DOUBLE",
      "g LARGEng SMALL TRIPLEg LARGEnd LOOP HITTING CEILING SMALL SINGLEg LARGEng SMALL DOUBLE",
      "g LARGEnd WAVE HITTING CEILING SMALLg LARGEb ROTATION-FLOORPLANE SINGLE HITTING CEILING",
      "d DOUBLEod ALTERNATINGob MOVEMENT-FLOORPLANE CURVE HITTING FLOOR SMALLg LARGE",
      "d HUMP HITTING FLOOR SMALL DOUBLEg LARGEng TRIPLE SMALL TRIPLEh LARGEn",
      "d LOOP HITTING FLOOR SMALL SINGLEg LARGEng SMALL DOUBLEg LARGEnd WAVE HITTING FLOOR SMALL",
      "g LARGEb ROTATION-FLOORPLANE SINGLE HITTING FLOORd DOUBLEod ALTERNATINGo",
      "b MOVEMENT-FLOORPLANE CURVE SMALLe MEDIUMe LARGEe LARGESTe COMBINEDd HUMP SMALLd LOOPn",
      "d WAVE SNAKEe SMALLe LARGEb ROTATION-FLOORPLANE SINGLEd DOUBLEd ALTERNATING",
      "b MOVEMENT-FLOORPLANE SHAKING PARALLELc-WALLPLANE ARM CIRCLE SMALL SINGLEf MEDIUMn",
      "f SMALL DOUBLEf MEDIUMnc-FLOORPLANE ARM CIRCLE HITTING WALL SMALL SINGLEh MEDIUMnh LARGEn",
      "h SMALL DOUBLEh MEDIUMnh LARGEnc-WALLPLANE WRIST CIRCLE FRONT SINGLEg DOUBLE",
      "c-FLOORPLANE WRIST CIRCLE HITTING WALL SINGLEh DOUBLEc-WALLPLANE FINGER CIRCLES SINGLE",
      "f DOUBLEc-FLOORPLANE FINGER CIRCLES HITTING WALL SINGLEh DOUBLEb DYNAMIC ARROWHEAD SMALL",
      "d LARGEc FASTc SLOWc TENSEc RELAXEDc SIMULTANEOUSd ALTERNATINGc EVERY OTHER TIMEc GRADUAL",
      "b HEADc RIMc MOVEMENT-WALLPLANE STRAIGHTe TILTd-FLOORPLANE STRAIGHTd-WALLPLANE CURVE",
      "d-FLOORPLANEnd CIRCLEb FACE DIRECTION POSITION NOSE FORWARD TILTINGf UP OR DOWNi TILTING",
      "b EYEBROWS STRAIGHT UPd NEUTRALd DOWNb DREAMY EYEBROWS NEUTRALnd DOWN NEUTRALd UPn",
      "d NEUTRAL UPb FOREHEAD NEUTRALc CONTACTc WRINKLEDb EYES OPENc SQUEEZEDc CLOSED",
      "b EYE BLINK SINGLEd MULTIPLEb EYES HALF OPENc WIDEnc HALF CLOSEDc WIDENING MOVEMENT",
      "b EYE WINKb EYELASHES UPc DOWNc FLUTTERINGb EYEGAZE-WALLPLANE STRAIGHTe DOUBLE",
      "e ALTERNATINGc-FLOORPLANE STRAIGHTe DOUBLEe ALTERNATINGc-WALLPLANE CURVEDc-FLOORPLANEn",
      "c-WALLPLANE CIRCLINGb CHEEKS PUFFEDc NEUTRALc SUCKEDb TENSE CHEEKS HIGHd MIDDLEd LOW",
      "b EARSb NOSE NEUTRALc CONTACTc WRINKLESc WIGGLESb AIR BLOWING OUTc SUCKING IN",
      "c BLOW SMALL ROTATIONSc SUCKob BREATH INHALEc EXHALEb MOUTH CLOSED NEUTRALd FORWARD",
      "d CONTACTc SMILEd WRINKLEDd OPENc FROWNd WRINKLEDd OPENc OPEN CIRCLEd FORWARDd WRINKLED",
      "d OVALe WRINKLEDe YAWNd RECTANGLEe WRINKLEDe YAWNc KISSd FORWARDd WRINKLEDc TENSE",
      "d FORWARDd SUCKEDb LIPS PRESSED TOGETHERb LIP LOWER OVER UPPERc UPPER OVER LOWER",
      "b MOUTH CORNERSc WRINKLES SINGLEd DOUBLEb TONGUE STICKING OUT FARc LICKING LIPS",
      "c TIP BETWEENnd TOUCHING INSIDE MOUTHc INSIDE MOUTH RELAXEDc MOVES AGAINST CHEEK",
      "c CENTRE STICKING OUTd INSIDE MOUTHb TEETHc MOVEMENTc ON TONGUEe MOVEMENTd LIPSe MOVEMENT",
      "c BITE LIPSb MOVEMENT-WALLPLANE JAWc-FLOORPLANEnb NECKb HAIRb EXCITEMENT",
      "b SHOULDER HIP SPINEd POSITIONSb WALLPLANE SHOULDER HIP MOVEb FLOORPLANEp",
      "b SHOULDER TILTING FROM WAISTb TORSO-WALLPLANE STRAIGHT STRETCHd CURVED BEND",
      "c-FLOORPLANE TWISTINGb UPPER BODY TILTING FROM HIP JOINTSb LIMB COMBINATIONc LENGTH-1d-2",
      "d-3d-4d-5d-6d-7b FINGERb LOCATION-WALLPLANE SPACEc-FLOORPLANEnc HEIGHTc WIDTHc DEPTH",
      "c HEAD NECKc TORSOc LIMBS DIGITSb COMMAb FULL STOPb SEMICOLONb COLONb PARENTHESIS"]⟩,
   ⟨0x1da9b, ["aSIGNWRITING FILL MODIFIER-2d-3d-4d-5d-6"]⟩,
   ⟨0x1daa1, ["aSIGNWRITING ROTATION MODIFIER-2d-3d-4d-5d-6d-7d-8d-9d-10d-11d-12d-13d-14d-15d-16"]⟩,
   ⟨0x1df00, ["aLATIN SMALL LETTER FENG DIGRAPH WITH TRILLd REVERSED SCRIPT G",
      "b LETTER SMALL CAPITAL TURNEDnb SMALL LETTER REVERSED Kb LETTER SMALL CAPITAL L WITH BELT",
      "b SMALL LETTER LEZH WITH RETROFLEX HOOKd TURNED Y WITH BELTd REVERSED ENG",
      "d TURNED R WITH LONG LEG AND RETROFLEX HOOKd T WITH HOOKpb LETTER RETROFLEX CLICK WITHo",
      "b SMALL LETTER ESH WITH DOUBLE BARh AND CURLd TURNED T WITHn",
      "b LETTER INVERTED GLOTTAL STOPoc STRETCHED Coc SMALL CAPITAL TURNED K",
      "b SMALL LETTER L WITH FISHHOOKd DEZH DIGRAPH WITH PALATAL HOOKd L WITH BELT ANDo",
      "d ENG WITHod TURNED Rpd R WITH FISHHOOK ANDod TESH DIGRAPH WITHod EZHp",
      "d DEZH DIGRAPH WITH RETROFLEXnd I WITH STROKE ANDod O WITHod TESH DIGRAPHpd Cp",
      "d S WITH CURL"]⟩,
   ⟨0x1e000, ["aCOMBINING GLAGOLITIC LETTER AZUd BUKYd VEDEd GLAGOLId DOBROd YESTUd ZHIVETE"]⟩,
   ⟨0x1e008, ["aCOMBINING GLAGOLITIC LETTER ZEMLJAd IZHEd INITIALnd Id DJERVId KAKOd LJUDIJE",
      "d MYSLITEd NASHId ONUd POKOJId RITSId SLOVOd TVRIDOd UKUd FRITUd HERU"]⟩,
   ⟨0x1e01b, ["aCOMBINING GLAGOLITIC LETTER SHTAd TSId CHRIVId SHAd YERUd YERId YATI"]⟩,
   ⟨0x1e023, ["aCOMBINING GLAGOLITIC LETTER YUd SMALL YUS"]⟩,
   ⟨0x1e026, ["aCOMBINING GLAGOLITIC LETTER YOd IOTATED SMALL YUSd BIGnd IOTATEDod FITA"]⟩,
   ⟨0x1e100, ["aNYIAKENG PUACHUE HMONG LETTER MAe TSAe NTAe TAe HAe NAe XAe NKAe CAe LAe SAe ZA",
      "e NCAe NTSAe KAe DAe NYAe NRAe VAe NTXAe TXAe FAe RAe QAe YAe NQAe PAe XYAe NPAe DLA",
      "e NPLAe HAHe MLAe PLAe GAe RRAe Ae AAe Ie Ue Oe OOe Ee EEe W"]⟩,
   ⟨0x1e130, ["aNYIAKENG PUACHUE HMONG TONE-Be-Me-Je-Ve-Se-Ge-Dd SIGN FOR PERSONf THING",
      "f LOCATIONf ANIMALf INVERTEBRATEe XW XWd SYLLABLE LENGTHENER"]⟩,
   ⟨0x1e140, ["aNYIAKENG PUACHUE HMONG DIGIT ZEROe ONEe TWOe THREEe FOURe FIVEe SIXe SEVEN",
      "e EIGHTe NINE"]⟩,
   ⟨0x1e14e, ["aNYIAKENG PUACHUE HMONG LOGOGRAM NYAJd CIRCLED CA"]⟩,
   ⟨0x1e290, ["aTOTO LETTER PAc BAc TAc DAc KAc GAc MAc NAc NGAc SAc CHAc YAc WAc JAc HAc RAc LA",
      "c Ic BREATHYnc IUc BREATHYnc Uc Ec BREATHYnc EOc BREATHYnc Oc AEc BREATHYnc A",
      "b SIGN RISING TONE"]⟩,
   ⟨0x1e2c0, ["aWANCHO LETTER AAc Ac BAc CAc DAc GAc YAc PHAc LAc NAc PAc TAc THAc FAc SAc SHA",
      "c JAc ZAc WAc VAc KAc Oc AUc RAc MAc KHAc HAc Ec Ic NGAc Uc LLHAc TSAc TRAc ONGc AANG",
      "c ANGc INGc ONc ENc AANc NYAc UENc YIHb TONE TUPc TUPNIc KOIc KOINIb DIGIT ZEROc ONEc TWO",
      "c THREEc FOURc FIVEc SIXc SEVENc EIGHTc NINE"]⟩,
   ⟨0x1e2ff, ["aWANCHO NGUN SIGN"]⟩,
   ⟨0x1e7e0, ["aETHIOPIC SYLLABLE HHYAc HHYUc HHYIc HHYAAc HHYEEc HHYEc HHYO"]⟩,
   ⟨0x1e7e8, ["aETHIOPIC SYLLABLE GURAGE HHWAc HHWIc HHWEEc HHWE"]⟩,
   ⟨0x1e7ed, ["aETHIOPIC SYLLABLE GURAGE MWId MWEE"]⟩,
   ⟨0x1e7f0, ["aETHIOPIC SYLLABLE GURAGE QWId QWEEd QWEd BWId BWEEd KWId KWEEd KWEd GWId GWEE",
      "d GWEd FWId FWEEd PWId PWEE"]⟩,
   ⟨0x1e800, ["aMENDE KIKAKUI SYLLABLE M001 KId M002 KAd M003 KUd M065 KEEd M095 KEd M076 KOO",
      "d M048 KOd M179 KUAd M004 WId M005 WAd M006 WUd M126 WEEd M118 WEd M114 WOOd M045 WO",
      "d M194 WUId M143 WEId M061 WVId M049 WVAd M139 WVEd M007 MINd M008 MANd M009 MUN",
      "d M059 MENd M094 MONd M154 MUANd M189 MUENd M010 BId M011 BAd M012 BUd M150 BEEd M097 BE",
      "d M103 BOOd M138 BOd M013 Id M014 Ad M015 Ud M163 EEd M100 Ed M165 OOd M147 Od M137 EI",
      "d M131 INd M135nd M195 ANd M178 ENd M019 SId M020 SAd M021 SUd M162 SEEd M116 SE",
      "d M136 SOOd M079 SOd M196 SIAd M025 LId M026 LAd M027 LUd M084 LEEd M073 LEd M054 LOO",
      "d M153 LOd M110 LONG LEd M016 DId M017 DAd M018 DUd M089 DEEd M180 DOOd M181 DOd M022 TI",
      "d M023 TAd M024 TUd M091 TEEd M055 TEd M104 TOOd M069 TOd M028 JId M029 JAd M030 JU",
      "d M157 JEEd M113 JEd M160 JOOd M063 JOd M175 LONGnd M031 YId M032 YAd M033 YUd M109 YEE",
      "d M080 YEd M141 YOOd M121 YOd M034 FId M035 FAd M036 FUd M078 FEEd M075 FEd M133 FOO",
      "d M088 FOd M197 FUAd M101 FANd M037 NINd M038 NANd M039 NUNd M117 NENd M169 NONd M176 HI",
      "d M041 HAd M186 HUd M040 HEEd M096 HEd M042 HOOd M140 HOd M083 HEEId M128 HOOUd M053 HIN",
      "d M130 HANd M087 HUNd M052 HENd M193 HONd M046 HUANd M090 NGGId M043 NGGAd M082 NGGU",
      "d M115 NGGEEd M146 NGGEd M156 NGGOOd M120 NGGOd M159 NGGAAd M127 NGGUAd M086 LONG NGGE",
      "d M106 LONG NGGOOd M183 LONG NGGOd M155 GId M111 GAd M168 GUd M190 GEEd M166 GUEI",
      "d M167 GUANd M184 NGENd M057 NGONd M177 NGUANd M068 PId M099 PAd M050 PUd M081 PEE",
      "d M051 PEd M102 POOd M066 POd M145 MBId M062 MBAd M122 MBUd M047 MBEEd M188nd M072 MBE",
      "d M172 MBOOd M174 MBOd M187 MBUUd M161 LONG MBEd M105 LONG MBOOd M142 LONG MBOd M132 KPI",
      "d M092 KPAd M074 KPUd M044 KPEEd M108 KPEd M112 KPOOd M158 KPOd M124 GBId M056 GBA",
      "d M148 GBUd M093 GBEEd M107 GBEd M071 GBOOd M070 GBOd M171 RAd M123 NDId M129 NDA",
      "d M125 NDUd M191 NDEEd M119 NDEd M067 NDOOd M064 NDOd M152 NJAd M192 NJUd M149 NJEE",
      "d M134 NJOOd M182 VId M185 VAd M151 VUd M173 VEEd M085 VEd M144 VOOd M077 VOd M164 NYIN",
      "d M058 NYANd M170 NYUNd M098 NYENd M060 NYON"]⟩,
   ⟨0x1e8c7, ["aMENDE KIKAKUI DIGIT ONEd TWOd THREEd FOURd FIVEd SIXd SEVENd EIGHTd NINE",
      "c COMBINING NUMBER TEENSe TENSe HUNDREDSe THOUSANDSe TENne HUNDREDne MILLIONS"]⟩,
   ⟨0x1e900, ["aADLAM CAPITAL LETTER ALIFd DAALId LAAMd MIIMd BAd SINNYIIYHEd PEd BHEd RAd Ed FA",
      "d Id Od DHAd YHEd WAWd NUNd KAFd YAd Ud JIIMd CHId HAd QAAFd GAd NYAd TUd NHAd VAd KHA",
      "d GBEd ZALd KPOd SHAb SMALL LETTER ALIFd DAALId LAAMd MIIMd BAd SINNYIIYHEd PEd BHEd RA",
      "d Ed FAd Id Od DHAd YHEd WAWd NUNd KAFd YAd Ud JIIMd CHId HAd QAAFd GAd NYAd TUd NHAd VA",
      "d KHAd GBEd ZALd KPOd SHAb ALIF LENGTHENERb VOWELnb GEMINATION MARKb HAMZA",
      "b CONSONANT MODIFIERb GEMINATEob NUKTAb NASALIZATION MARK"]⟩,
   ⟨0x1e950, ["aADLAM DIGIT ZEROc ONEc TWOc THREEc FOURc FIVEc SIXc SEVENc EIGHTc NINE"]⟩,
   ⟨0x1e95e, ["aADLAM INITIAL EXCLAMATION MARKc QUESTIONn"]⟩,
   ⟨0x1ec71, ["aINDIC SIYAQ NUMBER ONEd TWOd THREEd FOURd FIVEd SIXd SEVENd EIGHTd NINEd TEN",
      "d TWENTYd THIRTYd FORTYd FIFTYd SIXTYd SEVENTYd EIGHTYd NINETYd ONE HUNDREDd TWOnd THREEn",
      "d FOURnd FIVEnd SIXnd SEVENnd EIGHTnd NINEnd ONE THOUSANDd TWOnd THREEnd FOURnd FIVEn",
      "d SIXnd SEVENnd EIGHTnd NINEnd TENnd TWENTYnd THIRTYnd FORTYnd FIFTYnd SIXTYnd SEVENTYn",
      "d EIGHTYnd NINETYnd LAKHd LAKHANc LAKH MARKc NUMBER KARORd KARORANd PREFIXED ONEe TWO",
      "e THREEe FOURe FIVEe SIXe SEVENe EIGHTe NINEc PLACEHOLDERc FRACTION ONE QUARTERe HALF",
      "d THREE QUARTERSc RUPEE MARKc NUMBER ALTERNATE ONEe TWOe TEN THOUSAND",
      "c ALTERNATE LAKH MARK"]⟩,
   ⟨0x1ed01, ["aOTTOMAN SIYAQ NUMBER ONEd TWOd THREEd FOURd FIVEd SIXd SEVENd EIGHTd NINEd TEN",
      "d TWENTYd THIRTYd FORTYd FIFTYd SIXTYd SEVENTYd EIGHTYd NINETYd ONE HUNDREDd TWOnd THREEn",
      "d FOURnd FIVEnd SIXnd SEVENnd EIGHTnd NINEnd ONE THOUSANDd TWOnd THREEnd FOURnd FIVEn",
      "d SIXnd SEVENnd EIGHTnd NINEnd TENnd TWENTYnd THIRTYnd FORTYnd FIFTYnd SIXTYnd SEVENTYn",
      "d EIGHTYnd NINETYnc MARRATANc ALTERNATE NUMBER TWOe THREEe FOURe FIVEe SIXe SEVENe EIGHT",
      "e NINEe TENe FOUR HUNDREDe SIXne TWO THOUSANDe TENnc FRACTION ONE HALFe SIXTH"]⟩,
   ⟨0x1ee00, ["aARABIC MATHEMATICAL ALEFc BEHc JEEMc DAL"]⟩,
   ⟨0x1ee05, ["aARABIC MATHEMATICAL WAWc ZAINc HAHc TAHc YEHc KAFc LAMc MEEMc NOONc SEENc AIN",
      "c FEHc SADc QAFc REHc SHEENc TEHc THEHc KHAHc THALc DADc ZAHc GHAINc DOTLESS BEHd NOON",
      "d FEHd QAF"]⟩,
   ⟨0x1ee21, ["aARABIC MATHEMATICAL INITIAL BEHd JEEM"]⟩,
   ⟨0x1ee24, ["aARABIC MATHEMATICAL INITIAL HEH"]⟩,
   ⟨0x1ee27, ["aARABIC MATHEMATICAL INITIAL HAH"]⟩,
   ⟨0x1ee29, ["aARABIC MATHEMATICAL INITIAL YEHd KAFd LAMd MEEMd NOONd SEENd AINd FEHd SADd QAF"]⟩,
   ⟨0x1ee34, ["aARABIC MATHEMATICAL INITIAL SHEENd TEHd THEHd KHAH"]⟩,
   ⟨0x1ee39, ["aARABIC MATHEMATICAL INITIAL DAD"]⟩,
   ⟨0x1ee3b, ["aARABIC MATHEMATICAL INITIAL GHAIN"]⟩,
   ⟨0x1ee42, ["aARABIC MATHEMATICAL TAILED JEEM"]⟩,
   ⟨0x1ee47, ["aARABIC MATHEMATICAL TAILED HAH"]⟩,
   ⟨0x1ee49, ["aARABIC MATHEMATICAL TAILED YEH"]⟩,
   ⟨0x1ee4b, ["aARABIC MATHEMATICAL TAILED LAM"]⟩,
   ⟨0x1ee4d, ["aARABIC MATHEMATICAL TAILED NOONd SEENd AIN"]⟩,
   ⟨0x1ee51, ["aARABIC MATHEMATICAL TAILED SADd QAF"]⟩,
   ⟨0x1ee54, ["aARABIC MATHEMATICAL TAILED SHEEN"]⟩,
   ⟨0x1ee57, ["aARABIC MATHEMATICAL TAILED KHAH"]⟩,
   ⟨0x1ee59, ["aARABIC MATHEMATICAL TAILED DAD"]⟩,
   ⟨0x1ee5b, ["aARABIC MATHEMATICAL TAILED GHAIN"]⟩,
   ⟨0x1ee5d, ["aARABIC MATHEMATICAL TAILED DOTLESS NOON"]⟩,
   ⟨0x1ee5f, ["aARABIC MATHEMATICAL TAILED DOTLESS QAF"]⟩,
   ⟨0x1ee61, ["aARABIC MATHEMATICAL STRETCHED BEHd JEEM"]⟩,
   ⟨0x1ee64, ["aARABIC MATHEMATICAL STRETCHED HEH"]⟩,
   ⟨0x1ee67, ["aARABIC MATHEMATICAL STRETCHED HAHd TAHd YEHd KAF"]⟩,
   ⟨0x1ee6c, ["aARABIC MATHEMATICAL STRETCHED MEEMd NOONd SEENd AINd FEHd SADd QAF"]⟩,
   ⟨0x1ee74, ["aARABIC MATHEMATICAL STRETCHED SHEENd TEHd THEHd KHAH"]⟩,
   ⟨0x1ee79, ["aARABIC MATHEMATICAL STRETCHED DADd ZAHd GHAINd DOTLESS BEH"]⟩,
   ⟨0x1ee7e, ["aARABIC MATHEMATICAL STRETCHED DOTLESS FEH"]⟩,
   ⟨0x1ee80, ["aARABIC MATHEMATICAL LOOPED ALEFd BEHd JEEMd DALd HEHd WAWd ZAINd HAHd TAHd YEH"]⟩,
   ⟨0x1ee8b, ["aARABIC MATHEMATICAL LOOPED LAMd MEEMd NOONd SEENd AINd FEHd SADd QAFd REHd SHEEN",
      "d TEHd THEHd KHAHd THALd DADd ZAHd GHAIN"]⟩,
   ⟨0x1eea1, ["aARABIC MATHEMATICAL DOUBLE-STRUCK BEHe JEEMe DAL"]⟩,
   ⟨0x1eea5, ["aARABIC MATHEMATICAL DOUBLE-STRUCK WAWe ZAINe HAHe TAHe YEH"]⟩,
   ⟨0x1eeab, ["aARABIC MATHEMATICAL DOUBLE-STRUCK LAMe MEEMe NOONe SEENe AINe FEHe SADe QAFe REH",
      "e SHEENe TEHe THEHe KHAHe THALe DADe ZAHe GHAIN"]⟩,
   ⟨0x1eef0, ["aARABIC MATHEMATICAL OPERATOR MEEM WITH HAH WITH TATWEELd HAH WITH DAL"]⟩,
   ⟨0x1f000, ["aMAHJONG TILE EAST WINDc SOUTHnc WESTnc NORTHnc RED DRAGONc GREENnc WHITEn",
      "c ONE OF CHARACTERSc TWOoc THREEoc FOURoc FIVEoc SIXoc SEVENoc EIGHToc NINEo",
      "c ONE OF BAMBOOSc TWOoc THREEoc FOURoc FIVEoc SIXoc SEVENoc EIGHToc NINEoc ONE OF CIRCLES",
      "c TWOoc THREEoc FOURoc FIVEoc SIXoc SEVENoc EIGHToc NINEoc PLUMc ORCHIDc BAMBOO",
      "c CHRYSANTHEMUMc SPRINGc SUMMERc AUTUMNc WINTERc JOKERc BACK"]⟩,
   ⟨0x1f030, ["aDOMINO TILE HORIZONTAL BACKd-00-00e-01e-02e-03e-04e-05e-06d-01-00e-01e-02e-03",
      "e-04e-05e-06d-02-00e-01e-02e-03e-04e-05e-06d-03-00e-01e-02e-03e-04e-05e-06d-04-00e-01e-02",
      "e-03e-04e-05e-06d-05-00e-01e-02e-03e-04e-05e-06d-06-00e-01e-02e-03e-04e-05e-06",
      "c VERTICAL BACKd-00-00e-01e-02e-03e-04e-05e-06d-01-00e-01e-02e-03e-04e-05e-06d-02-00e-01",
      "e-02e-03e-04e-05e-06d-03-00e-01e-02e-03e-04e-05e-06d-04-00e-01e-02e-03e-04e-05e-06d-05-00",
      "e-01e-02e-03e-04e-05e-06d-06-00e-01e-02e-03e-04e-05e-06"]⟩,
   ⟨0x1f0a0, ["aPLAYING CARD BACKc ACE OF SPADESc TWOoc THREEoc FOURoc FIVEoc SIXoc SEVENo",
      "c EIGHToc NINEoc TENoc JACKoc KNIGHToc QUEENoc KINGo"]⟩,
   ⟨0x1f0b1, ["aPLAYING CARD ACE OF HEARTSc TWOoc THREEoc FOURoc FIVEoc SIXoc SEVENoc EIGHTo",
      "c NINEoc TENoc JACKoc KNIGHToc QUEENoc KINGoc RED JOKER"]⟩,
   ⟨0x1f0c1, ["aPLAYING CARD ACE OF DIAMONDSc TWOoc THREEoc FOURoc FIVEoc SIXoc SEVENoc EIGHTo",
      "c NINEoc TENoc JACKoc KNIGHToc QUEENoc KINGoc BLACK JOKER"]⟩,
   ⟨0x1f0d1, ["aPLAYING CARD ACE OF CLUBSc TWOoc THREEoc FOURoc FIVEoc SIXoc SEVENoc EIGHTo",
      "c NINEoc TENoc JACKoc KNIGHToc QUEENoc KINGoc WHITE JOKERc FOOLc TRUMP-1d-2d-3d-4d-5d-6",
      "d-7d-8d-9d-10d-11d-12d-13d-14d-15d-16d-17d-18d-19d-20d-21"]⟩,
   ⟨0x1f100, ["aDIGIT ZERO FULL STOPc COMMAb ONEnb TWOnb THREEnb FOURnb FIVEnb SIXnb SEVENn",
      "b EIGHTnb NINEnaDINGBAT CIRCLED SANS-SERIF DIGIT ZEROb NEGATIVEraCIRCLED ZERO WITH SLASH",
      "b ANTICLOCKWISE ARROWb DOLLAR SIGN WITH OVERLAID BACKSLASH",
      "aPARENTHESIZED LATIN CAPITAL LETTER Ae Be Ce De Ee Fe Ge He Ie Je Ke Le Me Ne Oe Pe Qe R",
      "e Se Te Ue Ve We Xe Ye ZaTORTOISE SHELL BRACKETED LATIN CAPITAL LETTER S",
      "aCIRCLED ITALIC LATIN CAPITAL LETTER Cf Rb CDb WZaCOPYLEFT SYMBOL",
      "aSQUARED LATIN CAPITAL LETTER Ae Be Ce De Ee Fe Ge He Ie Je Ke Le Me Ne Oe Pe Qe Re Se T",
      "e Ue Ve We Xe Ye Zb HVb MVb SDb SSb PPVb WCaNEGATIVE CIRCLED LATIN CAPITAL LETTER Af Bf C",
      "f Df Ef Ff Gf Hf If Jf Kf Lf Mf Nf Of Pf Qf Rf Sf Tf Uf Vf Wf Xf Yf ZaRAISED MC SIGNb MDn",
      "b MRnaCIRCLED CCb C WITH OVERLAID BACKSLASHb HUMAN FIGURE",
      "aNEGATIVE SQUARED LATIN CAPITAL LETTER Af Bf Cf Df Ef Ff Gf Hf If Jf Kf Lf Mf Nf Of Pf Q",
      "f Rf Sf Tf Uf Vf Wf Xf Yf ZaCROSSED NEGATIVE SQUARED LATIN CAPITAL LETTER P",
      "aNEGATIVE SQUARED ICc PAc SAc ABc WCaSQUARE DJaSQUARED CLb COOLb FREEb IDb NEWb NGb OK",
      "b SOSb UP WITH EXCLAMATION MARKb VSb THREE Db SECOND SCREENb TWO Kb FOURnb EIGHTn",
      "b FIVE POINT ONEb SEVENob TWENTY-TWO POINT TWOb SIXTY Pb ONE HUNDRED TWENTYn",
      "b LATIN SMALL LETTER Db HCb HDRb HI-RESb LOSSLESSb SHVb UHDb VODaMASK WORK SYMBOL"]⟩,
   ⟨0x1f1e6, ["aREGIONAL INDICATOR SYMBOL LETTER Ae Be Ce De Ee Fe Ge He Ie Je Ke Le Me Ne Oe P",
      "e Qe Re Se Te Ue Ve We Xe Ye ZaSQUARE HIRAGANA HOKAaSQUARED KATAKANA KOKOc SA"]⟩,
   ⟨0x1f210, ["aSQUARED CJK UNIFIED IDEOGRAPH-624Be-5B57e-53CCb KATAKANA DE",
      "b CJK UNIFIED IDEOGRAPH-4E8Ce-591Ae-89E3e-5929e-4EA4e-6620e-7121e-6599e-524De-5F8Ce-518D",
      "e-65B0e-521De-7D42e-751Fe-8CA9e-58F0e-5439e-6F14e-6295e-6355e-4E00e-4E09e-904Ae-5DE6",
      "e-4E2De-53F3e-6307e-8D70e-6253e-7981e-7A7Ae-5408e-6E80e-6709e-6708e-7533e-5272e-55B6",
      "e-914D"]⟩,
   ⟨0x1f240, ["aTORTOISE SHELL BRACKETED CJK UNIFIED IDEOGRAPH-672Cg-4E09g-4E8Cg-5B89g-70B9",
      "g-6253g-76D7g-52DDg-6557"]⟩,
   ⟨0x1f250, ["aCIRCLED IDEOGRAPH ADVANTAGEc ACCEPT"]⟩,
   ⟨0x1f260, ["aROUNDED SYMBOL FOR FUd LUd SHOUd XId SHUANGXId CAI"]⟩,
   ⟨0x1f300, ["aCYCLONEaFOGGYaCLOSED UMBRELLAaNIGHT WITH STARSaSUNRISE OVER MOUNTAINSb",
      "aCITYSCAPE AT DUSKaSUNSET OVER BUILDINGSaRAINBOWaBRIDGE AT NIGHTaWATER WAVEaVOLCANO",
      "aMILKY WAYaEARTH GLOBE EUROPE-AFRICAc AMERICASc ASIA-AUSTRALIAaGLOBE WITH MERIDIANS",
      "aNEW MOON SYMBOLaWAXING CRESCENToaFIRST QUARTERoaWAXING GIBBOUSoaFULLoaWANING GIBBOUSo",
      "aLAST QUARTERoaWANING CRESCENToaCRESCENT MOONaNEW MOON WITH FACEaFIRST QUARTERpaLASTq",
      "aFULLpaSUNoaGLOWING STARaSHOOTINGnaTHERMOMETERaBLACK DROPLETaWHITE SUNc WITH SMALL CLOUD",
      "c BEHINDne WITH RAINaCLOUDoc SNOWc LIGHTNINGc TORNADOaFOGaWIND BLOWING FACEaHOT DOGaTACO",
      "aBURRITOaCHESTNUTaSEEDLINGaEVERGREEN TREEaDECIDUOUSnaPALMnaCACTUSaHOT PEPPERaTULIP",
      "aCHERRY BLOSSOMaROSEaHIBISCUSaSUNFLOWERaBLOSSOMaEAR OF MAIZEc RICEaHERBaFOUR LEAF CLOVER",
      "aMAPLE LEAFaFALLENnaLEAF FLUTTERING IN WINDaMUSHROOMaTOMATOaAUBERGINEaGRAPESaMELON",
      "aWATERMELONaTANGERINEaLEMONaBANANAaPINEAPPLEaRED APPLEaGREENnaPEARaPEACHaCHERRIES",
      "aSTRAWBERRYaHAMBURGERaSLICE OF PIZZAaMEAT ON BONEaPOULTRY LEGaRICE CRACKERb BALL",
      "aCOOKED RICEaCURRY ANDnaSTEAMING BOWLaSPAGHETTIaBREADaFRENCH FRIESaROASTED SWEET POTATO",
      "aDANGOaODENaSUSHIaFRIED SHRIMPaFISH CAKE WITH SWIRL DESIGNaSOFT ICE CREAMaSHAVED ICE",
      "aICE CREAMaDOUGHNUTaCOOKIEaCHOCOLATE BARaCANDYaLOLLIPOPaCUSTARDaHONEY POTaSHORTCAKE",
      "aBENTO BOXaPOT OF FOODaCOOKINGaFORK AND KNIFEaTEACUP WITHOUT HANDLEaSAKE BOTTLE AND CUP",
      "aWINE GLASSaCOCKTAILnaTROPICAL DRINKaBEER MUGaCLINKING BEER MUGSaBABY BOTTLE",
      "aFORK AND KNIFE WITH PLATEaBOTTLE WITH POPPING CORKaPOPCORNaRIBBONaWRAPPED PRESENT",
      "aBIRTHDAY CAKEaJACK-O-LANTERNaCHRISTMAS TREEaFATHER CHRISTMASaFIREWORKSaFIREWORK SPARKLER",
      "aBALLOONaPARTY POPPERaCONFETTI BALLaTANABATA TREEaCROSSED FLAGSaPINE DECORATION",
      "aJAPANESE DOLLSaCARP STREAMERaWIND CHIMEaMOON VIEWING CEREMONYaSCHOOL SATCHEL",
      "aGRADUATION CAPaHEART WITH TIP ON THE LEFTaBOUQUET OF FLOWERSaMILITARY MEDAL",
      "aREMINDER RIBBONaMUSICAL KEYBOARD WITH JACKSaSTUDIO MICROPHONEaLEVEL SLIDERaCONTROL KNOBS",
      "aBEAMED ASCENDING MUSICAL NOTESb DESCENDINGoaFILM FRAMESaADMISSION TICKETSaCAROUSEL HORSE",
      "aFERRIS WHEELaROLLER COASTERaFISHING POLE AND FISHaMICROPHONEaMOVIE CAMERAaCINEMA",
      "aHEADPHONEaARTIST PALETTEaTOP HATaCIRCUS TENTaTICKETaCLAPPER BOARDaPERFORMING ARTS",
      "aVIDEO GAMEaDIRECT HITaSLOT MACHINEaBILLIARDSaGAME DIEaBOWLINGaFLOWER PLAYING CARDS",
      "aMUSICAL NOTEaMULTIPLE MUSICAL NOTESaSAXOPHONEaGUITARaMUSICAL KEYBOARDaTRUMPETaVIOLIN",
      "aMUSICAL SCOREaRUNNING SHIRT WITH SASHaTENNIS RACQUET AND BALLaSKI AND SKI BOOT",
      "aBASKETBALL AND HOOPaCHEQUERED FLAGaSNOWBOARDERaRUNNERaSURFERaSPORTS MEDALaTROPHY",
      "aHORSE RACINGaAMERICAN FOOTBALLaRUGBYnaSWIMMERaWEIGHT LIFTERaGOLFERaRACING MOTORCYCLE",
      "b CARaCRICKET BAT AND BALLaVOLLEYBALLaFIELD HOCKEY STICK AND BALL",
      "aICE HOCKEY STICK AND PUCKaTABLE TENNIS PADDLE AND BALLaSNOW CAPPED MOUNTAINaCAMPING",
      "aBEACH WITH UMBRELLAaBUILDING CONSTRUCTIONaHOUSE BUILDINGSaCITYSCAPE",
      "aDERELICT HOUSE BUILDINGaCLASSICALnaDESERTb ISLANDaNATIONAL PARKaSTADIUMaHOUSE BUILDING",
      "b WITH GARDENaOFFICE BUILDINGaJAPANESE POST OFFICEaEUROPEANoaHOSPITALaBANK",
      "aAUTOMATED TELLER MACHINEaHOTELaLOVE HOTELaCONVENIENCE STOREaSCHOOLaDEPARTMENT STORE",
      "aFACTORYaIZAKAYA LANTERNaJAPANESE CASTLEaEUROPEANnaWHITE PENNANTaBLACKnaWAVING WHITE FLAG",
      "b BLACKnaROSETTEaBLACK ROSETTEaLABELaBADMINTON RACQUET AND SHUTTLECOCKaBOW AND ARROW",
      "aAMPHORAaEMOJI MODIFIER FITZPATRICK TYPE-1-2e-3e-4e-5e-6aRATaMOUSEaOXaWATER BUFFALOaCOW",
      "aTIGERaLEOPARDaRABBITaCATaDRAGONaCROCODILEaWHALEaSNAILaSNAKEaHORSEaRAMaGOATaSHEEPaMONKEY",
      "aROOSTERaCHICKENaDOGaPIGaBOARaELEPHANTaOCTOPUSaSPIRAL SHELLaBUGaANTaHONEYBEEaLADY BEETLE",
      "aFISHaTROPICAL FISHaBLOWFISHaTURTLEaHATCHING CHICKaBABYnaFRONT-FACING BABYnaBIRDaPENGUIN",
      "aKOALAaPOODLEaDROMEDARY CAMELaBACTRIANnaDOLPHINaMOUSE FACEaCOWnaTIGERnaRABBITnaCATn",
      "aDRAGONnaSPOUTING WHALEaHORSE FACEaMONKEYnaDOGnaPIGnaFROGnaHAMSTERnaWOLFnaBEARnaPANDAn",
      "aPIG NOSEaPAW PRINTSaCHIPMUNKaEYESaEYEaEARaNOSEaMOUTHaTONGUE",
      "aWHITE UP POINTING BACKHAND INDEXb DOWNpb LEFTpb RIGHTpaFISTED HAND SIGNaWAVINGoaOKo",
      "aTHUMBS UPnb DOWNnaCLAPPING HANDSnaOPENoaCROWNaWOMANS HATaEYEGLASSESaNECKTIEaT-SHIRT",
      "aJEANSaDRESSaKIMONOaBIKINIaWOMANS CLOTHESaPURSEaHANDBAGaPOUCHaMANS SHOEaATHLETICn",
      "aHIGH-HEELEDnaWOMANS SANDALb BOOTSaFOOTPRINTSaBUST IN SILHOUETTEaBUSTSoaBOYaGIRLaMAN",
      "aWOMANaFAMILYaMAN AND WOMAN HOLDING HANDSaTWO MENob WOMENoaPOLICE OFFICER",
      "aWOMAN WITH BUNNY EARSaBRIDE WITH VEILaPERSON WITH BLOND HAIRaMAN WITH GUA PI MAOc TURBAN",
      "aOLDER MANb WOMANaBABYaCONSTRUCTION WORKERaPRINCESSaJAPANESE OGREb GOBLINaGHOST",
      "aBABY ANGELaEXTRATERRESTRIAL ALIENaALIEN MONSTERaIMPaSKULLaINFORMATION DESK PERSON",
      "aGUARDSMANaDANCERaLIPSTICKaNAIL POLISHaFACE MASSAGEaHAIRCUTaBARBER POLEaSYRINGEaPILL",
      "aKISS MARKaLOVE LETTERaRINGaGEM STONEaKISSaBOUQUETaCOUPLE WITH HEARTaWEDDING",
      "aBEATING HEARTaBROKENnaTWO HEARTSaSPARKLING HEARTaGROWINGnaHEART WITH ARROWaBLUE HEART",
      "aGREENnaYELLOWnaPURPLEnaHEART WITH RIBBONaREVOLVING HEARTSaHEART DECORATION",
      "aDIAMOND SHAPE WITH A DOT INSIDEaELECTRIC LIGHT BULBaANGER SYMBOLaBOMBaSLEEPING SYMBOL",
      "aCOLLISIONnaSPLASHING SWEATnaDROPLETaDASH SYMBOLaPILE OF POOaFLEXED BICEPSaDIZZY SYMBOL",
      "aSPEECH BALLOONaTHOUGHTnaWHITE FLOWERaHUNDRED POINTS SYMBOLaMONEY BAGaCURRENCY EXCHANGE",
      "aHEAVY DOLLAR SIGNaCREDIT CARDaBANKNOTE WITH YEN SIGNc DOLLARnc EUROnc POUNDn",
      "aMONEY WITH WINGSaCHART WITH UPWARDS TREND AND YEN SIGNaSEATaPERSONAL COMPUTERaBRIEFCASE",
      "aMINIDISCaFLOPPY DISKaOPTICAL DISCaDVDaFILE FOLDERaOPEN FILEnaPAGE WITH CURLb FACING UP",
      "aCALENDARaTEAR-OFF CALENDARaCARD INDEXaCHART WITH UPWARDS TRENDc DOWNWARDSnaBAR CHART",
      "aCLIPBOARDaPUSHPINaROUND PUSHPINaPAPERCLIPaSTRAIGHT RULERaTRIANGULARnaBOOKMARK TABS",
      "aLEDGERaNOTEBOOKb WITH DECORATIVE COVERaCLOSED BOOKaOPENnaGREENnaBLUEnaORANGEnaBOOKS",
      "aNAME BADGEaSCROLLaMEMOaTELEPHONE RECEIVERaPAGERaFAX MACHINEaSATELLITE ANTENNA",
      "aPUBLIC ADDRESS LOUDSPEAKERaCHEERING MEGAPHONEaOUTBOX TRAYaINBOXnaPACKAGEaE-MAIL SYMBOL",
      "aINCOMING ENVELOPEaENVELOPE WITH DOWNWARDS ARROW ABOVEaCLOSED MAILBOX WITH LOWERED FLAG",
      "d RAISEDnaOPENqd LOWEREDnaPOSTBOXaPOSTAL HORNaNEWSPAPERaMOBILE PHONE",
      "c WITH RIGHTWARDS ARROW AT LEFTaVIBRATION MODEaMOBILE PHONE OFFaNO MOBILE PHONES",
      "aANTENNA WITH BARSaCAMERAb WITH FLASHaVIDEO CAMERAaTELEVISIONaRADIOaVIDEOCASSETTE",
      "aFILM PROJECTORaPORTABLE STEREOaPRAYER BEADSaTWISTED RIGHTWARDS ARROWS",
      "aCLOCKWISE RIGHTWARDS AND LEFTWARDS OPEN CIRCLEnh WITH CIRCLED ONE OVERLAY",
      "b DOWNWARDS AND UPWARDS OPEN CIRCLE ARROWSaANTICLOCKWISEsaLOW BRIGHTNESS SYMBOLaHIGHo",
      "aSPEAKER WITH CANCELLATION STROKEbb WITH ONE SOUND WAVEc THREE SOUND WAVESaBATTERY",
      "aELECTRIC PLUGaLEFT-POINTING MAGNIFYING GLASSaRIGHTpaLOCK WITH INK PEN",
      "aCLOSED LOCK WITH KEYaKEYaLOCKaOPEN LOCKaBELLb WITH CANCELLATION STROKEaBOOKMARK",
      "aLINK SYMBOLaRADIO BUTTONaBACK WITH LEFTWARDS ARROW ABOVEaENDq",
      "aON WITH EXCLAMATION MARK WITH LEFT RIGHToaSOON WITH RIGHTWARDSoaTOP WITH UPWARDSo",
      "aNO ONE UNDER EIGHTEEN SYMBOLaKEYCAP TENaINPUT SYMBOL FOR LATIN CAPITAL LETTERSe SMALLn",
      "d NUMBERSd SYMBOLSd LATIN LETTERSaFIREaELECTRIC TORCHaWRENCHaHAMMERaNUT AND BOLTaHOCHO",
      "aPISTOLaMICROSCOPEaTELESCOPEaCRYSTAL BALLaSIX POINTED STAR WITH MIDDLE DOT",
      "aJAPANESE SYMBOL FOR BEGINNERaTRIDENT EMBLEMaBLACK SQUARE BUTTONaWHITEoaLARGE RED CIRCLE",
      "b BLUEnb ORANGE DIAMONDb BLUEnaSMALL ORANGEnb BLUEnaUP-POINTING RED TRIANGLEaDOWNp",
      "aUP-POINTING SMALLoaDOWNqaLOWER RIGHT SHADOWED WHITE CIRCLEaUPPERqaCIRCLED CROSS POMMEE",
      "aCROSS POMMEE WITH HALF-CIRCLE BELOWcaNOTCHED LEFT SEMICIRCLE WITH THREE DOTSb RIGHTq",
      "aSYMBOL FOR MARKS CHAPTERaWHITE LATIN CROSSaHEAVYoaCELTICnaOM SYMBOLaDOVE OF PEACEaKAABA",
      "aMOSQUEaSYNAGOGUEaMENORAH WITH NINE BRANCHESaBOWL OF HYGIEIAaCLOCK FACE ONE OCLOCKc TWOn",
      "c THREEnc FOURnc FIVEnc SIXnc SEVENnc EIGHTnc NINEnc TENnc ELEVENnc TWELVEnc ONE-THIRTY",
      "c TWOnc THREEnc FOURnc FIVEnc SIXnc SEVENnc EIGHTnc NINEnc TENnc ELEVENnc TWELVEn",
      "aRIGHT SPEAKERc WITH ONE SOUND WAVEd THREE SOUND WAVESaBULLHORNb WITH SOUND WAVES",
      "aRINGING BELLaBOOKaCANDLEaMANTELPIECE CLOCKaBLACK SKULL AND CROSSBONESaNO PIRACYaHOLE",
      "aMAN IN BUSINESS SUIT LEVITATINGaSLEUTH OR SPYaDARK SUNGLASSESaSPIDERb WEBaJOYSTICK",
      "aMAN DANCINGaLEFT HAND TELEPHONE RECEIVERaTELEPHONE RECEIVER WITH PAGE",
      "aRIGHT HAND TELEPHONE RECEIVERaWHITE TOUCHTONE TELEPHONEaBLACKoaTELEPHONE ON TOP OF MODEM",
      "aCLAMSHELL MOBILE PHONEaBACK OF ENVELOPEaSTAMPEDnaENVELOPE WITH LIGHTNINGaFLYING ENVELOPE",
      "aPEN OVER STAMPEDnaLINKED PAPERCLIPSaBLACK PUSHPINaLOWER LEFT PENCILc BALLPOINT PEN",
      "c FOUNTAINnc PAINTBRUSHc CRAYONaLEFT WRITING HANDaTURNED OK HAND SIGN",
      "aRAISED HAND WITH FINGERS SPLAYEDaREVERSED RAISEDqb THUMBS UP SIGNc DOWNnb VICTORY HAND",
      "b HAND WITH MIDDLE FINGER EXTENDEDaRAISED HAND WITH PART BETWEEN MIDDLE AND RING FINGERS",
      "aWHITE DOWN POINTING LEFT HAND INDEXaSIDEWAYS WHITE LEFT POINTINGnc RIGHTob BLACK LEFTo",
      "c RIGHToaBLACK LEFT POINTING BACKHANDnb RIGHTpaSIDEWAYS WHITE UP POINTINGnc DOWNo",
      "b BLACK UPoc DOWNoaBLACK UP POINTING BACKHANDnb DOWNpb HEARTaDESKTOP COMPUTER",
      "aKEYBOARD AND MOUSEaTHREE NETWORKED COMPUTERSaPRINTERaPOCKET CALCULATOR",
      "aBLACK HARD SHELL FLOPPY DISKaWHITEqaSOFTpaTAPE CARTRIDGEaWIRED KEYBOARDaONE BUTTON MOUSE",
      "aTWOoaTHREEoaTRACKBALLaOLD PERSONAL COMPUTERaHARD DISKaSCREENaPRINTER ICONaFAXn",
      "aOPTICAL DISCnaDOCUMENT WITH TEXTd AND PICTUREcnaFRAMEoc TILESc AN XaBLACK FOLDERaFOLDER",
      "aOPEN FOLDERaCARD INDEX DIVIDERSb FILE BOXaFILE CABINETaEMPTY NOTEc PAGEc PADaNOTEb PAGE",
      "b PADaEMPTY DOCUMENTb PAGEb PAGESaDOCUMENTaPAGEaPAGESaWASTEBASKETaSPIRAL NOTE PAD",
      "b CALENDARnaDESKTOP WINDOWaMINIMIZEaMAXIMIZEaOVERLAP",
      "aCLOCKWISE RIGHT AND LEFT SEMICIRCLE ARROWSaCANCELLATION XaINCREASE FONT SIZE SYMBOL",
      "aDECREASEpaCOMPRESSIONaOLD KEYaROLLED-UP NEWSPAPERaPAGE WITH CIRCLED TEXTaSTOCK CHART",
      "aDAGGER KNIFEaLIPSaSPEAKING HEAD IN SILHOUETTEaTHREE RAYS ABOVEc BELOWc LEFTc RIGHT",
      "aLEFT SPEECH BUBBLEaRIGHToaTWO SPEECH BUBBLESaTHREEoaLEFT THOUGHT BUBBLEaRIGHTo",
      "aLEFT ANGERnaRIGHToaMOODnaLIGHTNING MOODncaBALLOT BOX WITH BALLOTb SCRIPT Xb BOX WITHo",
      "b BOLDob BOX WITHpaLIGHT CHECK MARKaBALLOT BOX WITH BOLD CHECKaWORLD MAPaMOUNT FUJI",
      "aTOKYO TOWERaSTATUE OF LIBERTYaSILHOUETTE OF JAPANaMOYAIaGRINNING FACEc WITH SMILING EYES",
      "aFACE WITH TEARS OF JOYaSMILING FACE WITH OPEN MOUTHf AND SMILING EYESg COLD SWEAT",
      "g TIGHTLY-CLOSED EYESd HALOd HORNSaWINKING FACEaSMILING FACE WITH SMILING EYES",
      "aFACE SAVOURING DELICIOUS FOODaRELIEVED FACEaSMILING FACE WITH HEART-SHAPED EYES",
      "d SUNGLASSESaSMIRKING FACEaNEUTRALnaEXPRESSIONLESSnaUNAMUSEDnaFACE WITH COLD SWEAT",
      "aPENSIVE FACEaCONFUSEDnaCONFOUNDEDnaKISSINGnaFACE THROWING A KISS",
      "aKISSING FACE WITH SMILING EYESd CLOSEDnaFACE WITH STUCK-OUT TONGUEf AND WINKING EYE",
      "g TIGHTLY-CLOSED EYESaDISAPPOINTED FACEaWORRIEDnaANGRYnaPOUTINGnaCRYINGnaPERSEVERINGn",
      "aFACE WITH LOOK OF TRIUMPHaDISAPPOINTED BUT RELIEVED FACEaFROWNING FACE WITH OPEN MOUTH",
      "aANGUISHED FACEaFEARFULnaWEARYnaSLEEPYnaTIREDnaGRIMACINGnaLOUDLY CRYINGn",
      "aFACE WITH OPEN MOUTHaHUSHED FACEaFACE WITH OPEN MOUTH AND COLD SWEATb SCREAMING IN FEAR",
      "aASTONISHED FACEaFLUSHEDnaSLEEPINGnaDIZZYnaFACE WITHOUT MOUTHb WITH MEDICAL MASK",
      "aGRINNING CAT FACE WITH SMILING EYESaCAT FACE WITH TEARS OF JOY",
      "aSMILING CAT FACE WITH OPEN MOUTHe HEART-SHAPED EYESaCAT FACE WITH WRY SMILE",
      "aKISSING CAT FACE WITH CLOSED EYESaPOUTING CAT FACEaCRYINGoaWEARYoaSLIGHTLY FROWNINGn",
      "b SMILINGnaUPSIDE-DOWNnaFACE WITH ROLLING EYESc NO GOOD GESTUREc OKnaPERSON BOWING DEEPLY",
      "aSEE-NO-EVIL MONKEYaHEARpaSPEAKpaHAPPY PERSON RAISING ONE HAND",
      "aPERSON RAISING BOTH HANDS IN CELEBRATIONb FROWNINGb WITH POUTING FACEc FOLDED HANDS",
      "aNORTH WEST POINTING LEAFaSOUTHpaNORTH EASToaSOUTHpaTURNED NORTH WESTob SOUTHp",
      "b NORTH EASTob SOUTHpaNORTH WEST POINTING VINEnaSOUTHqaNORTH EASTpaSOUTHq",
      "aHEAVY NORTH WESTpb SOUTHqb NORTH EASTpb SOUTHqaNORTH WEST POINTING BUDaSOUTHp",
      "aNORTH EASToaSOUTHpaHEAVY NORTH WESTob SOUTHpb NORTH EASTob SOUTHp",
      "aHOLLOW QUILT SQUARE ORNAMENTe IN BLACK SQUAREaSOLID QUILT SQUARE ORNAMENT",
      "e IN BLACK SQUAREaLEFTWARDS ROCKETaUPWARDSnaRIGHTWARDSnaDOWNWARDSn",
      "aSCRIPT LIGATURE ET ORNAMENTaHEAVY SCRIPTpaLIGATURE OPENoaHEAVY LIGATUREpb AMPERSANDn",
      "aSWASHoaSANS-SERIF HEAVY DOUBLE TURNED COMMA QUOTATION MARKneqd LOWraHEAVY INTERROBANGn",
      "aSANS-SERIFoaHEAVY SANSpaVERY HEAVY SOLIDUSc REVERSEnaCHECKER BOARDaREVERSE CHECKERn",
      "aROCKETaHELICOPTERaSTEAM LOCOMOTIVEaRAILWAY CARaHIGH-SPEED TRAINd WITH BULLET NOSEaTRAIN",
      "aMETROaLIGHT RAILaSTATIONaTRAMb CARaBUSaONCOMING BUSaTROLLEYBUSaBUS STOPaMINIBUS",
      "aAMBULANCEaFIRE ENGINEaPOLICE CARaONCOMING POLICEnaTAXIaONCOMING TAXIaAUTOMOBILE",
      "aONCOMING AUTOMOBILEaRECREATIONAL VEHICLEaDELIVERY TRUCKaARTICULATED LORRYaTRACTOR",
      "aMONORAILaMOUNTAIN RAILWAYaSUSPENSIONnaMOUNTAIN CABLEWAYaAERIAL TRAMWAYaSHIPaROWBOAT",
      "aSPEEDBOATaHORIZONTAL TRAFFIC LIGHTaVERTICALoaCONSTRUCTION SIGN",
      "aPOLICE CARS REVOLVING LIGHTaTRIANGULAR FLAG ON POSTaDOORaNO ENTRY SIGNaSMOKING SYMBOL",
      "aNO SMOKINGnaPUT LITTER IN ITS PLACEnaDO NOT LITTERnaPOTABLE WATERnaNON-POTABLEoaBICYCLE",
      "aNO BICYCLESaBICYCLISTaMOUNTAIN BICYCLISTaPEDESTRIANaNO PEDESTRIANSaCHILDREN CROSSING",
      "aMENS SYMBOLaWOMENSnaRESTROOMaBABY SYMBOLaTOILETaWATER CLOSETaSHOWERaBATHaBATHTUB",
      "aPASSPORT CONTROLaCUSTOMSaBAGGAGE CLAIMaLEFT LUGGAGEaTRIANGLE WITH ROUNDED CORNERS",
      "aPROHIBITED SIGNaCIRCLED INFORMATION SOURCEaBOYS SYMBOLaGIRLSnaCOUCH AND LAMP",
      "aSLEEPING ACCOMMODATIONaSHOPPING BAGSaBELLHOP BELLaBEDaPLACE OF WORSHIPaOCTAGONAL SIGN",
      "aSHOPPING TROLLEYaSTUPAaPAGODAaHINDU TEMPLEaHUTaELEVATOR"]⟩,
   ⟨0x1f6dd, ["aPLAYGROUND SLIDEaWHEELaRING BUOYaHAMMER AND WRENCHaSHIELDaOIL DRUMaMOTORWAY",
      "aRAILWAY TRACKaMOTOR BOATaUP-POINTING MILITARY AIRPLANEcnc SMALLnaSMALLn",
      "aNORTHEAST-POINTINGnaAIRPLANE DEPARTUREb ARRIVING"]⟩,
   ⟨0x1f6f0, ["aSATELLITEaONCOMING FIRE ENGINEaDIESEL LOCOMOTIVEaPASSENGER SHIPaSCOOTER",
      "aMOTOR SCOOTERaCANOEaSLEDaFLYING SAUCERaSKATEBOARDaAUTO RICKSHAWaPICKUP TRUCK",
      "aROLLER SKATE"]⟩,
   ⟨0x1f700, ["aALCHEMICAL SYMBOL FOR QUINTESSENCEd AIRd FIREd EARTHd WATERd AQUAFORTIS",
      "d AQUA REGIAf-2e VITAEf-2d VINEGARe-2e-3d SULFURd PHILOSOPHERSnd BLACKn",
      "d MERCURY SUBLIMATEf-2f-3d CINNABARd SALTd NITREd VITRIOLe-2d ROCK SALTf-2d GOLDd SILVER",
      "d IRON OREf-2d CROCUS OF IRONd REGULUSod COPPER OREd IRON-COPPERnd SUBLIMATE OF COPPER",
      "d CROCUSog-2d COPPER ANTIMONIATEd SALT OFod SUBLIMATE OF SALT OF COPPERd VERDIGRIS",
      "d TIN OREd LEADnd ANTIMONYnd SUBLIMATE OF ANTIMONYd SALTod SUBLIMATE OFpd VINEGARo",
      "d REGULUSog-2ee-2e-3e-4d ALKALIe-2d MARCASITEd SAL-AMMONIACd ARSENICd REALGARe-2",
      "d AURIPIGMENTd BISMUTH OREd TARTARe-2d QUICK LIMEd BORAXe-2e-3d ALUMd OILd SPIRIT",
      "d TINCTUREd GUMd WAXd POWDERd CALXd TUTTYd CAPUT MORTUUMd SCEPTER OF JOVEd CADUCEUS",
      "d TRIDENTd STARREDnd LODESTONEd SOAPd URINEd HORSE DUNGd ASHESd POTnd BRICKd POWDEREDn",
      "d AMALGAMd STRATUM SUPER STRATUMg-2d SUBLIMATIONd PRECIPITATEd DISTILLd DISSOLVEe-2",
      "d PURIFYd PUTREFACTIONd CRUCIBLEe-2e-3e-4e-5d ALEMBICd BATH OF MARYf VAPOURSd RETORT",
      "d HOURd NIGHTd DAY-NIGHTd MONTHd HALF DRAMe OUNCE"]⟩,
   ⟨0x1f780, ["aBLACK LEFT-POINTING ISOSCELES RIGHT TRIANGLEb UPqb RIGHTqb DOWNq",
      "b SLIGHTLY SMALL CIRCLEaMEDIUM BOLD WHITEnaBOLDoaHEAVYoaVERY HEAVYoaEXTREMELYp",
      "aWHITE CIRCLE CONTAINING BLACK SMALLnaROUND TARGETaBLACK TINY SQUAREb SLIGHTLY SMALLn",
      "aLIGHT WHITEnaMEDIUMoaBOLDoaHEAVYoaVERY HEAVYoaEXTREMELYp",
      "aWHITE SQUARE CONTAINING BLACK VERY SMALLne MEDIUMnaSQUARE TARGETaBLACK TINY DIAMOND",
      "b VERY SMALLnb MEDIUMoaWHITE DIAMOND CONTAINING BLACK VERYoe MEDIUMnaDIAMOND TARGET",
      "aBLACK TINY LOZENGEb VERY SMALLnb MEDIUMoaWHITE LOZENGE CONTAINING BLACKo",
      "aTHIN GREEK CROSSaLIGHToaMEDIUMoaBOLDoaVERY BOLDob HEAVYoaEXTREMELYpaTHIN SALTIREaLIGHTn",
      "aMEDIUMnaBOLDnaHEAVYnaVERY HEAVYnaEXTREMELYoaLIGHT FIVE SPOKED ASTERISKaMEDIUMpaBOLDp",
      "aHEAVYpaVERY HEAVYpaEXTREMELYqaLIGHT SIXoaMEDIUMpaBOLDpaHEAVYpaVERY HEAVYpaEXTREMELYq",
      "aLIGHT EIGHToaMEDIUMpaBOLDpaHEAVYpaVERY HEAVYpaLIGHT THREE POINTED BLACK STARaMEDIUMq",
      "aTHREEpaMEDIUM THREE POINTED PINWHEELnaLIGHT FOUR POINTED BLACKnaMEDIUMqaFOURp",
      "aMEDIUM FOUR POINTED PINWHEELnaREVERSE LIGHTqaLIGHT FIVE POINTED BLACKnaHEAVYq",
      "aMEDIUM SIXpaHEAVYqaSIX POINTED PINWHEELnaMEDIUM EIGHT POINTED BLACKnaHEAVYqaVERY HEAVYq",
      "aHEAVY EIGHT POINTED PINWHEELnaLIGHT TWELVE POINTED BLACKnaHEAVYqd PINWHEELn",
      "aCIRCLED TRIANGLEaNEGATIVE CIRCLEDnaCIRCLED SQUAREaNEGATIVE CIRCLEDn"]⟩,
   ⟨0x1f7e0, ["aLARGE ORANGE CIRCLEb YELLOWnb GREENnb PURPLEnb BROWNnb RED SQUAREb BLUEn",
      "b ORANGEnb YELLOWnb GREENnb PURPLEnb BROWNn"]⟩,
   ⟨0x1f7f0, ["aHEAVY EQUALS SIGN"]⟩,
   ⟨0x1f800, ["aLEFTWARDS ARROW WITH SMALL TRIANGLE ARROWHEADaUPWARDSraRIGHTWARDSraDOWNWARDSr",
      "aLEFTWARDS ARROW WITH MEDIUMoaUPWARDSraRIGHTWARDSraDOWNWARDSraLEFTWARDS ARROW WITH LARGEo",
      "aUPWARDSraRIGHTWARDSraDOWNWARDSr"]⟩,
   ⟨0x1f810, ["aLEFTWARDS ARROW WITH SMALL EQUILATERAL ARROWHEADaUPWARDSraRIGHTWARDSraDOWNWARDSr",
      "aLEFTWARDS ARROW WITHoaUPWARDSqaRIGHTWARDSqaDOWNWARDSqaHEAVY LEFTWARDSqb UPWARDSq",
      "b RIGHTWARDSqb DOWNWARDSqb LEFTWARDS ARROW WITH LARGEob UPWARDSrb RIGHTWARDSrb DOWNWARDSr",
      "aLEFTWARDS TRIANGLE-HEADED ARROW WITH NARROW SHAFTaUPWARDSsaRIGHTWARDSsaDOWNWARDSs",
      "aLEFTWARDS TRIANGLE-HEADED ARROW WITH MEDIUMnaUPWARDSsaRIGHTWARDSsaDOWNWARDSs",
      "aLEFTWARDS TRIANGLE-HEADED ARROW WITH BOLDnaUPWARDSsaRIGHTWARDSsaDOWNWARDSs",
      "aLEFTWARDS TRIANGLE-HEADED ARROW WITH HEAVYnaUPWARDSsaRIGHTWARDSsaDOWNWARDSs",
      "aLEFTWARDS TRIANGLE-HEADED ARROW WITH VERYoaUPWARDStaRIGHTWARDStaDOWNWARDSt",
      "aLEFTWARDS FINGER-POST ARROWaUPWARDSpaRIGHTWARDSpaDOWNWARDSpaLEFTWARDS SQUAREDnaUPWARDSo",
      "aRIGHTWARDSoaDOWNWARDSoaLEFTWARDS COMPRESSEDnaUPWARDSoaRIGHTWARDSoaDOWNWARDSo",
      "aLEFTWARDS HEAVYoaUPWARDSpaRIGHTWARDSpaDOWNWARDSpaLEFTWARDS HEAVYnaUPWARDSoaRIGHTWARDSo",
      "aDOWNWARDSo"]⟩,
   ⟨0x1f850, ["aLEFTWARDS SANS-SERIF ARROWaUPWARDSpaRIGHTWARDSpaDOWNWARDSpaNORTH WESTpb EASTp",
      "aSOUTHqb WESTpaLEFT RIGHTpaUP DOWNp"]⟩,
   ⟨0x1f860, ["aWIDE-HEADED LEFTWARDS LIGHT BARB ARROWc UPWARDSpc RIGHTWARDSpc DOWNWARDSp",
      "c NORTH WESTpd EASTpc SOUTHqd WESTpc LEFTWARDSoc UPWARDSoc RIGHTWARDSoc DOWNWARDSo",
      "c NORTH WESTod EASToc SOUTHpd WESToc LEFTWARDS MEDIUMoc UPWARDSpc RIGHTWARDSpc DOWNWARDSp",
      "c NORTH WESTpd EASTpc SOUTHqd WESTpc LEFTWARDS HEAVYoc UPWARDSpc RIGHTWARDSpc DOWNWARDSp",
      "c NORTH WESTpd EASTpc SOUTHqd WESTpc LEFTWARDS VERYpc UPWARDSqc RIGHTWARDSqc DOWNWARDSq",
      "c NORTH WESTqd EASTqc SOUTHrd WESTq"]⟩,
   ⟨0x1f890, ["aLEFTWARDS TRIANGLE ARROWHEADaUPWARDSoaRIGHTWARDSoaDOWNWARDSo",
      "aLEFTWARDS WHITE ARROW WITHINoaUPWARDSraRIGHTWARDSraDOWNWARDSr",
      "aLEFTWARDS ARROW WITH NOTCHED TAILaUPWARDSqaRIGHTWARDSqaDOWNWARDSq",
      "aHEAVY ARROW SHAFT WIDTH ONEe TWO THIRDSe ONE HALFf THIRD",
      "aLEFTWARDS BOTTOM-SHADED WHITE ARROWaRIGHTWARDS BOTTOM SHADEDoaLEFTWARDS TOPpaRIGHTWARDSq",
      "aLEFTWARDS LEFT-SHADEDoaRIGHTWARDS RIGHTpaLEFTWARDSqaRIGHTWARDS LEFTp",
      "aLEFTWARDS BACK-TILTED SHADOWEDoaRIGHTWARDSraLEFTWARDS FRONTqaRIGHTWARDSr",
      "aWHITE ARROW SHAFT WIDTH ONEe TWO THIRDS"]⟩,
   ⟨0x1f8b0, ["aARROW POINTING UPWARDS THEN NORTH WESTc RIGHTWARDS THEN CURVING SOUTHn"]⟩,
   ⟨0x1f900, ["aCIRCLED CROSS FORMEE WITH FOUR DOTSe TWOndaLEFT HALF CIRCLE WITH FOUR DOTS",
      "e THREEne TWOne DOTdaDOWNWARD FACING HOOKc NOTCHEDnc HOOK WITH DOTc NOTCHEDp",
      "aPINCHED FINGERSaWHITE HEARTaBROWNnaPINCHING HANDaZIPPER-MOUTH FACEaMONEYo",
      "aFACE WITH THERMOMETERaNERD FACEaTHINKINGnaFACE WITH HEAD-BANDAGEaROBOT FACEaHUGGINGn",
      "aSIGN OF THE HORNSaCALL ME HANDaRAISED BACK OFnaLEFT-FACING FISTaRIGHToaHANDSHAKE",
      "aHAND WITH INDEX AND MIDDLE FINGERS CROSSEDaI LOVE YOU HAND SIGNaFACE WITH COWBOY HAT",
      "aCLOWN FACEaNAUSEATEDnaROLLING ON THE FLOOR LAUGHINGaDROOLING FACEaLYINGnaFACE PALM",
      "aSNEEZING FACEaFACE WITH ONE EYEBROW RAISEDaGRINNING FACE WITH STAR EYES",
      "d ONE LARGE AND ONE SMALL EYEaFACE WITH FINGER COVERING CLOSED LIPS",
      "aSERIOUS FACE WITH SYMBOLS COVERING MOUTHaSMILING FACE WITH SMILING EYES AND HANDo",
      "aFACE WITH OPEN MOUTH VOMITINGaSHOCKED FACE WITH EXPLODING HEADaPREGNANT WOMAN",
      "aBREAST-FEEDINGaPALMS UP TOGETHERaSELFIEaPRINCEaMAN IN TUXEDOaMOTHER CHRISTMASaSHRUG",
      "aPERSON DOING CARTWHEELaJUGGLINGaFENCERaMODERN PENTATHLONaWRESTLERSaWATER POLOaHANDBALL",
      "aDIVING MASKaWILTED FLOWERaDRUM WITH DRUMSTICKSaCLINKING GLASSESaTUMBLER GLASSaSPOON",
      "aGOAL NETaRIFLEaFIRST PLACE MEDALaSECONDoaTHIRDoaBOXING GLOVEaMARTIAL ARTS UNIFORM",
      "aCURLING STONEaLACROSSE STICK AND BALLaSOFTBALLaFLYING DISCaCROISSANTaAVOCADOaCUCUMBER",
      "aBACONaPOTATOaCARROTaBAGUETTE BREADaGREEN SALADaSHALLOW PAN OF FOODaSTUFFED FLATBREADaEGG",
      "aGLASS OF MILKaPEANUTSaKIWIFRUITaPANCAKESaDUMPLINGaFORTUNE COOKIEaTAKEOUT BOXaCHOPSTICKS",
      "aBOWL WITH SPOONaCUP WITH STRAWaCOCONUTaBROCCOLIaPIEaPRETZELaCUT OF MEATaSANDWICH",
      "aCANNED FOODaLEAFY GREENaMANGOaMOON CAKEaBAGEL",
      "aSMILING FACE WITH SMILING EYES AND THREE HEARTSaYAWNING FACEaSMILING FACE WITH TEAR",
      "aFACE WITH PARTY HORN AND PARTY HATc UNEVEN EYES AND WAVY MOUTHaOVERHEATED FACEaFREEZINGn",
      "aNINJAaDISGUISED FACEaFACE HOLDING BACK TEARSb WITH PLEADING EYESaSARIaLAB COATaGOGGLES",
      "aHIKING BOOTaFLAT SHOEaCRABaLION FACEaSCORPIONaTURKEYaUNICORN FACEaEAGLEaDUCKaBATaSHARK",
      "aOWLaFOX FACEaBUTTERFLYaDEERaGORILLAaLIZARDaRHINOCEROSaSHRIMPaSQUIDaGIRAFFE FACEaZEBRAn",
      "aHEDGEHOGaSAUROPODaT-REXaCRICKETaKANGAROOaLLAMAaPEACOCKaHIPPOPOTAMUSaPARROTaRACCOON",
      "aLOBSTERaMOSQUITOaMICROBEaBADGERaSWANaMAMMOTHaDODOaSLOTHaOTTERaORANGUTANaSKUNKaFLAMINGO",
      "aOYSTERaBEAVERaBISONaSEALaGUIDE DOGaPROBING CANEaEMOJI COMPONENT RED HAIRc CURLYnc BALD",
      "c WHITE HAIRaBONEaLEGaFOOTaTOOTHaSUPERHEROaSUPERVILLAINaSAFETY VESTaEAR WITH HEARING AID",
      "aMOTORIZED WHEELCHAIRaMANUALnaMECHANICAL ARMb LEGaCHEESE WEDGEaCUPCAKEaSALT SHAKER",
      "aBEVERAGE BOXaGARLICaONIONaFALAFELaWAFFLEaBUTTERaMATE DRINKaICE CUBEaBUBBLE TEAaTROLL",
      "aSTANDING PERSONaKNEELINGnaDEAFnaFACE WITH MONOCLEaADULTaCHILDaOLDER ADULTaBEARDED PERSON",
      "aPERSON WITH HEADSCARFb IN STEAMY ROOMb CLIMBINGb IN LOTUS POSITIONaMAGEaFAIRYaVAMPIRE",
      "aMERPERSONaELFaGENIEaZOMBIEaBRAINaORANGE HEARTaBILLED CAPaSCARFaGLOVESaCOATaSOCKS",
      "aRED GIFT ENVELOPEaFIRECRACKERaJIGSAW PUZZLE PIECEaTEST TUBEaPETRI DISHaDNA DOUBLE HELIX",
      "aCOMPASSaABACUSaFIRE EXTINGUISHERaTOOLBOXaBRICKaMAGNETaLUGGAGEaLOTION BOTTLE",
      "aSPOOL OF THREADaBALL OF YARNaSAFETY PINaTEDDY BEARaBROOMaBASKETaROLL OF PAPER",
      "aBAR OF SOAPaSPONGEaRECEIPTaNAZAR AMULETaNEUTRAL CHESS KINGc QUEENc ROOKc BISHOPc KNIGHT",
      "c PAWNaWHITE CHESS KNIGHT ROTATED FORTY-FIVE DEGREESaBLACKsaNEUTRALs",
      "aWHITE CHESS KING ROTATED NINETYnc QUEENpc ROOKpc BISHOPpc KNIGHTpc PAWNp",
      "aBLACK CHESS KINGpc QUEENpc ROOKpc BISHOPpc KNIGHTpc PAWNpaNEUTRAL CHESS KINGpc QUEENp",
      "c ROOKpc BISHOPpc KNIGHTpc PAWNpaWHITE CHESS KNIGHT ROTATED ONE HUNDRED THIRTY-FIVEn",
      "aBLACKuaNEUTRALuaWHITE CHESS TURNED KINGd QUEENd ROOKd BISHOPd KNIGHTd PAWN",
      "aBLACK CHESS TURNED KINGd QUEENd ROOKd BISHOPd KNIGHTd PAWNaNEUTRAL CHESS TURNED KING",
      "d QUEENd ROOKd BISHOPd KNIGHTd PAWN",
      "aWHITE CHESS KNIGHT ROTATED TWO HUNDRED TWENTY-FIVE DEGREESaBLACKuaNEUTRALu",
      "aWHITE CHESS KING ROTATED TWO HUNDRED SEVENTYnc QUEENrc ROOKrc BISHOPrc KNIGHTrc PAWNr",
      "aBLACK CHESS KINGrc QUEENrc ROOKrc BISHOPrc KNIGHTrc PAWNraNEUTRAL CHESS KINGrc QUEENr",
      "c ROOKrc BISHOPrc KNIGHTrc PAWNraWHITE CHESS KNIGHT ROTATED THREE HUNDRED FIFTEENnaBLACKt",
      "aNEUTRALtaWHITE CHESS EQUIHOPPERaBLACKoaNEUTRALo",
      "aWHITE CHESS EQUIHOPPER ROTATED NINETY DEGREESaBLACKraNEUTRALraWHITE CHESS KNIGHT-QUEEN",
      "d-ROOKd-BISHOPaBLACK CHESS KNIGHT-QUEENd-ROOKd-BISHOP"]⟩,
   ⟨0x1fa60, ["aXIANGQI RED GENERALc MANDARINc ELEPHANTc HORSEc CHARIOTc CANNONc SOLDIER",
      "b BLACK GENERALc MANDARINc ELEPHANTc HORSEc CHARIOTc CANNONc SOLDIER"]⟩,
   ⟨0x1fa70, ["aBALLET SHOESaONE-PIECE SWIMSUITaBRIEFSaSHORTSaTHONG SANDAL"]⟩,
   ⟨0x1fa78, ["aDROP OF BLOODaADHESIVE BANDAGEaSTETHOSCOPEaX-RAYaCRUTCH"]⟩,
   ⟨0x1fa80, ["aYO-YOaKITEaPARACHUTEaBOOMERANGaMAGIC WANDaPINATAaNESTING DOLLS"]⟩,
   ⟨0x1fa90, ["aRINGED PLANETaCHAIRaRAZORaAXEaDIYA LAMPaBANJOaMILITARY HELMETaACCORDION",
      "aLONG DRUMaCOINaCARPENTRY SAWaSCREWDRIVERaLADDERaHOOKaMIRRORaWINDOWaPLUNGERaSEWING NEEDLE",
      "aKNOTaBUCKETaMOUSE TRAPaTOOTHBRUSHaHEADSTONEaPLACARDaROCKaMIRROR BALLaIDENTIFICATION CARD",
      "aLOW BATTERYaHAMSA"]⟩,
   ⟨0x1fab0, ["aFLYaWORMaBEETLEaCOCKROACHaPOTTED PLANTaWOODaFEATHERaLOTUSaCORALaEMPTY NEST",
      "aNEST WITH EGGS"]⟩,
   ⟨0x1fac0, ["aANATOMICAL HEARTaLUNGSaPEOPLE HUGGINGaPREGNANT MANb PERSONaPERSON WITH CROWN"]⟩,
   ⟨0x1fad0, ["aBLUEBERRIESaBELL PEPPERaOLIVEaFLATBREADaTAMALEaFONDUEaTEAPOTaPOURING LIQUID",
      "aBEANSaJAR"]⟩,
   ⟨0x1fae0, ["aMELTING FACEaSALUTINGnaFACE WITH OPEN EYES AND HAND OVER MOUTHc PEEKING EYE",
      "c DIAGONAL MOUTHaDOTTED LINE FACEaBITING LIPaBUBBLES"]⟩,
   ⟨0x1faf0, ["aHAND WITH INDEX FINGER AND THUMB CROSSEDaRIGHTWARDS HANDaLEFTWARDSnaPALM DOWNn",
      "b UPnaINDEX POINTING AT THE VIEWERaHEART HANDS"]⟩,
   ⟨0x1fb00, ["aBLOCK SEXTANT-1c-2c-12c-3c-13c-23c-123c-4c-14c-24c-124c-34c-134c-234c-1234c-5",
      "c-15c-25c-125c-35c-235c-1235c-45c-145c-245c-1245c-345c-1345c-2345c-12345c-6c-16c-26c-126",
      "c-36c-136c-236c-1236c-46c-146c-1246c-346c-1346c-2346c-12346c-56c-156c-256c-1256c-356",
      "c-1356c-2356c-12356c-456c-1456c-2456c-12456c-3456c-13456c-23456",
      "aLOWER LEFT BLOCK DIAGONAL LOWER MIDDLE LEFT TO LOWER CENTREj RIGHT",
      "e UPPER MIDDLE LEFT TO LOWER CENTREj RIGHTf LEFT TO LOWER CENTRE",
      "b RIGHT BLOCK DIAGONAL UPPER MIDDLE LEFT TO UPPERnj RIGHT",
      "e LOWER MIDDLE LEFT TO UPPER CENTREj RIGHTf LEFT TO UPPER CENTRE",
      "f MIDDLE LEFT TO UPPER MIDDLE RIGHTf CENTRE TO LOWERof LEFTqf CENTRE TO UPPERof LEFTq",
      "f CENTRE TO UPPERnb LEFT BLOCK DIAGONAL UPPER CENTRE TO UPPER MIDDLEnf LEFTq",
      "f CENTRE TO LOWERof LEFTqf CENTRE TO LOWERnf MIDDLE LEFT TO LOWER MIDDLEn",
      "aUPPER RIGHT BLOCK DIAGONAL LOWER MIDDLE LEFT TO LOWER CENTREj RIGHT",
      "e UPPER MIDDLE LEFT TO LOWER CENTREj RIGHTf LEFT TO LOWER CENTRE",
      "b LEFT BLOCK DIAGONAL UPPER MIDDLE LEFT TO UPPERnj RIGHT",
      "e LOWER MIDDLE LEFT TO UPPER CENTREj RIGHTf LEFT TO UPPER CENTRE",
      "f MIDDLE LEFT TO UPPER MIDDLE RIGHTf CENTRE TO LOWERof LEFTqf CENTRE TO UPPERof LEFTq",
      "f CENTRE TO UPPERnb RIGHT BLOCK DIAGONAL UPPER CENTRE TO UPPER MIDDLEnf LEFTq",
      "f CENTRE TO LOWERof LEFTqf CENTRE TO LOWERnf MIDDLE LEFT TO LOWER MIDDLEn",
      "b AND RIGHT AND LOWER TRIANGULAR THREE QUARTERS BLOCKaLEFT AND LOWER AND RIGHTq",
      "aUPPER AND LEFT AND LOWERqaLEFT AND UPPER AND RIGHTqb TRIANGULAR ONE QUARTERnaUPPERq",
      "aRIGHTqaLOWERqaVERTICAL ONE EIGHTH BLOCK-2e-3e-4e-5e-6e-7aHORIZONTAL ONE EIGHTH BLOCK-2",
      "e-3e-4e-5e-6e-7aLEFT AND LOWER ONE EIGHTH BLOCKc UPPERpaRIGHTrc LOWERpaUPPERr",
      "aHORIZONTAL ONE EIGHTH BLOCK-1358aUPPER ONE QUARTER BLOCKb THREE EIGHTHSnb FIVEo",
      "b THREE QUARTERSnb SEVEN EIGHTHSnaRIGHT ONE QUARTERnb THREE EIGHTHSnb FIVEo",
      "b THREE QUARTERSnb SEVEN EIGHTHSnaLEFT HALF MEDIUM SHADEaRIGHTpaUPPERpaLOWERpaINVERSEo",
      "aUPPER HALF BLOCK AND LOWER HALF INVERSEoc INVERSE MEDIUM SHADE AND LOWER HALF BLOCK"]⟩,
   ⟨0x1fb94, ["aLEFT HALF INVERSE MEDIUM SHADE AND RIGHT HALF BLOCKaCHECKER BOARD FILL",
      "aINVERSE CHECKERoaHEAVY HORIZONTALnaUPPER LEFT TO LOWER RIGHTnb RIGHT TO LOWER LEFTn",
      "b AND LOWER TRIANGULAR HALF BLOCKaLEFT AND RIGHTpaUPPER LEFT TRIANGULAR MEDIUM SHADE",
      "b RIGHTpaLOWERqb LEFTpaBOX DRAWINGS LIGHT DIAGONAL UPPER CENTRE TO MIDDLE LEFTi RIGHT",
      "e MIDDLE LEFT TO LOWER CENTREf RIGHTpe UPPER CENTRE TO MIDDLE LEFTpi RIGHTp",
      "e MIDDLE LEFT TO LOWER CENTRE TO MIDDLE RIGHTh UPPERq",
      "e UPPER CENTRE TO MIDDLE LEFT AND MIDDLE RIGHT TO LOWER CENTREi RIGHT AND MIDDLE LEFTp",
      "j TO LOWER CENTRE TO MIDDLE LEFTi LEFT TO LOWER CENTRE TO MIDDLE RIGHT",
      "e MIDDLE LEFT TO UPPER CENTRE TO MIDDLE RIGHT TO LOWER CENTRE",
      "f RIGHT TO UPPER CENTRE TO MIDDLE LEFTpe DIAMONDd HORIZONTAL WITH VERTICAL STROKE",
      "aARROWHEAD-SHAPED POINTERaINVERSE CHECK MARKaLEFT HALF RUNNING MANaRIGHTp",
      "aINVERSE DOWNWARDS ARROW WITH TIP LEFTWARDS",
      "aLEFTWARDS ARROW AND UPPER AND LOWER ONE EIGHTH BLOCKaRIGHTWARDSu",
      "aDOWNWARDS ARROW AND RIGHTpaUPWARDSsaLEFT HALF FOLDERaRIGHToaVOIDED GREEK CROSS",
      "aRIGHT OPEN SQUARED DOTaNEGATIVE DIAGONAL CROSSc MIDDLE RIGHT TO LOWER CENTREc DIAMOND",
      "aWHITE HEAVY SALTIRE WITH ROUNDED CORNERSaLEFT THIRD WHITE RIGHT POINTING INDEXaMIDDLEr",
      "aRIGHTraNEGATIVE SQUARED QUESTION MARKaSTICK FIGUREc WITH ARMS RAISEDc LEANING LEFT",
      "d RIGHTc WITH DRESSaWHITE UP-POINTING CHEVRON"]⟩,
   ⟨0x1fbf0, ["aSEGMENTED DIGIT ZEROc ONEc TWOc THREEc FOURc FIVEc SIXc SEVENc EIGHTc NINE"]⟩,
   ⟨0xe0001, ["aLANGUAGE TAG"]⟩,
   ⟨0xe0020, ["aTAG SPACEb EXCLAMATION MARKb QUOTATIONnb NUMBER SIGNb DOLLARnb PERCENTn",
      "b AMPERSANDb APOSTROPHEb LEFT PARENTHESISb RIGHTnb ASTERISKb PLUS SIGNb COMMA",
      "b HYPHEN-MINUSb FULL STOPb SOLIDUSb DIGIT ZEROc ONEc TWOc THREEc FOURc FIVEc SIXc SEVEN",
      "c EIGHTc NINEb COLONb SEMICOLONb LESS-THAN SIGNb EQUALSnb GREATER-THANnb QUESTION MARK",
      "b COMMERCIAL ATb LATIN CAPITAL LETTER Ae Be Ce De Ee Fe Ge He Ie Je Ke Le Me Ne Oe Pe Q",
      "e Re Se Te Ue Ve We Xe Ye Zb LEFT SQUARE BRACKETb REVERSE SOLIDUSb RIGHT SQUARE BRACKET",
      "b CIRCUMFLEX ACCENTb LOW LINEb GRAVE ACCENTb LATIN SMALL LETTER Ae Be Ce De Ee Fe Ge He I",
      "e Je Ke Le Me Ne Oe Pe Qe Re Se Te Ue Ve We Xe Ye Zb LEFT CURLY BRACKETb VERTICAL LINE",
      "b RIGHT CURLY BRACKETb TILDEaCANCEL TAG"]⟩,
   ⟨0xe0100, ["aVARIATION SELECTOR-17c-18c-19c-20c-21c-22c-23c-24c-25c-26c-27c-28c-29c-30c-31",
      "c-32c-33c-34c-35c-36c-37c-38c-39c-40c-41c-42c-43c-44c-45c-46c-47c-48c-49c-50c-51c-52c-53",
      "c-54c-55c-56c-57c-58c-59c-60c-61c-62c-63c-64c-65c-66c-67c-68c-69c-70c-71c-72c-73c-74c-75",
      "c-76c-77c-78c-79c-80c-81c-82c-83c-84c-85c-86c-87c-88c-89c-90c-91c-92c-93c-94c-95c-96c-97",
      "c-98c-99c-100c-101c-102c-103c-104c-105c-106c-107c-108c-109c-110c-111c-112c-113c-114c-115",
      "c-116c-117c-118c-119c-120c-121c-122c-123c-124c-125c-126c-127c-128c-129c-130c-131c-132",
      "c-133c-134c-135c-136c-137c-138c-139c-140c-141c-142c-143c-144c-145c-146c-147c-148c-149",
      "c-150c-151c-152c-153c-154c-155c-156c-157c-158c-159c-160c-161c-162c-163c-164c-165c-166",
      "c-167c-168c-169c-170c-171c-172c-173c-174c-175c-176c-177c-178c-179c-180c-181c-182c-183",
      "c-184c-185c-186c-187c-188c-189c-190c-191c-192c-193c-194c-195c-196c-197c-198c-199c-200",
      "c-201c-202c-203c-204c-205c-206c-207c-208c-209c-210c-211c-212c-213c-214c-215c-216c-217",
      "c-218c-219c-220c-221c-222c-223c-224c-225c-226c-227c-228c-229c-230c-231c-232c-233c-234",
      "c-235c-236c-237c-238c-239c-240c-241c-242c-243c-244c-245c-246c-247c-248c-249c-250c-251",
      "c-252c-253c-254c-255c-256"]⟩]

end QueryDepth
