import QueryDepth.Text.NamedRun

/-! Names of the radicals, syllables and marks of East Asia, and of what stands behind them up to
the end of the first plane. -/
namespace QueryDepth

def eastAsianRuns : List NamedRun :=
  [⟨0x2e00, ["aRIGHT ANGLE SUBSTITUTION MARKERc DOTTEDoaLEFT SUBSTITUTION BRACKETaRIGHTo",
      "aLEFT DOTTEDoaRIGHTpaRAISED INTERPOLATION MARKERb DOTTEDoaDOTTED TRANSPOSITIONn",
      "aLEFT TRANSPOSITION BRACKETaRIGHToaRAISED SQUAREaLEFT RAISED OMISSION BRACKETaRIGHTp",
      "aEDITORIAL CORONISaPARAGRAPHOSaFORKED PARAGRAPHOSaREVERSED FORKEDnaHYPODIASTOLE",
      "aDOTTED OBELOSaDOWNWARDS ANCORAaUPWARDSnaDOTTED RIGHT-POINTING ANGLE",
      "aDOUBLE OBLIQUE HYPHENaINVERTED INTERROBANGaPALM BRANCHaHYPHEN WITH DIAERESIS",
      "aTILDE WITH RING ABOVEaLEFT LOW PARAPHRASE BRACKETaRIGHTpaTILDE WITH DOT ABOVEd BELOW",
      "aLEFT VERTICAL BAR WITH QUILLaRIGHTqaTOP LEFT HALF BRACKETb RIGHToaBOTTOM LEFTob RIGHTo",
      "aLEFT SIDEWAYS UnaRIGHTpaLEFT DOUBLE PARENTHESISaRIGHToaTWO DOTS OVER ONE DOT PUNCTUATION",
      "aONE DOT OVER TWO DOTSnaSQUARED FOUR DOTnaFIVE DOT MARKaREVERSED QUESTIONnaVERTICAL TILDE",
      "aRING POINTaWORD SEPARATOR MIDDLE DOTaTURNED COMMAaRAISED DOTb COMMAaTURNED SEMICOLON",
      "aDAGGER WITH LEFT GUARDc RIGHTnaTURNED DAGGERaTOP HALF SECTION SIGNaTWO-EM DASHaTHREEo",
      "aSTENOGRAPHIC FULL STOPaVERTICAL SIX DOTSaWIGGLY VERTICAL LINEaCAPITULUMaDOUBLE HYPHEN",
      "aREVERSED COMMAaDOUBLE LOW-REVERSED-9 QUOTATION MARKaDASH WITH LEFT UPTURN",
      "aDOUBLE SUSPENSION MARKaINVERTED LOW KAVYKAd WITH KAVYKA ABOVEaLOW KAVYKAc WITH DOT",
      "aDOUBLE STACKED COMMAaDOTTED SOLIDUSaTRIPLE DAGGERaMEDIEVAL COMMAaPARAGRAPHUS MARK",
      "aPUNCTUS ELEVATUSnaCORNISH VERSE DIVIDERaCROSS PATTY WITH RIGHT CROSSBARd LEFTn",
      "aTIRONIAN SIGN CAPITAL ETaMEDIEVAL EXCLAMATION MARKb QUESTIONn",
      "aLEFT SQUARE BRACKET WITH STROKEaRIGHTqaLEFT SQUARE BRACKET WITH DOUBLEnaRIGHTr",
      "aTOP HALF LEFT PARENTHESISc RIGHTnaBOTTOM HALF LEFTnc RIGHTnaOBLIQUE HYPHEN"]⟩,
   ⟨0x2e80, ["aCJK RADICAL REPEATc CLIFFc SECOND ONEd TWOd THREEc PERSONc BOXc TABLEc KNIFE ONE",
      "d TWOc DIVINATIONc SEALc SMALL ONEd TWOc LAME ONEd TWOd THREEd FOURc SNAKEc THREAD",
      "c SNOUT ONEd TWOc HEART ONEd TWOc HANDc RAP"]⟩,
   ⟨0x2e9b, ["aCJK RADICAL CHOKEc SUNc MOONc DEATHc MOTHERc CIVILIANc WATER ONEd TWOc FIRE",
      "c PAW ONEd TWOc SIMPLIFIED HALF TREE TRUNKc COWc DOGc JADEc BOLT OF CLOTHc EYE",
      "c SPIRIT ONEd TWOc BAMBOOc SILKc C-SIMPLIFIEDnc NET ONEd TWOd THREEd FOURc MESHc SHEEP",
      "c RAMc EWEc OLDc BRUSH ONEd TWOc MEATc MORTARc GRASS ONEd TWOd THREEc TIGERc CLOTHES",
      "c WEST ONEd TWOc C-SIMPLIFIED SEEc SIMPLIFIED HORNcnc C-SIMPLIFIED SPEECHe SHELLc FOOT",
      "c C-SIMPLIFIED CARTc SIMPLIFIED WALKc WALK ONEd TWOc CITYc C-SIMPLIFIED GOLDc LONG ONE",
      "d TWOc C-SIMPLIFIED LONGe GATEc MOUND ONEd TWOc RAINc BLUEc C-SIMPLIFIED TANNED LEATHER",
      "e LEAFe WINDe FLYc EAT ONEd TWOd THREEc C-SIMPLIFIED EATc HEADc C-SIMPLIFIED HORSEc BONE",
      "c GHOSTc C-SIMPLIFIED FISHe BIRDe SALTc SIMPLIFIED WHEATd YELLOWc C-SIMPLIFIED FROG",
      "c J-SIMPLIFIED EVENc Coc J-SIMPLIFIED TOOTHc Coc J-SIMPLIFIED DRAGONc Coc TURTLE",
      "c J-SIMPLIFIEDnc Co"]⟩,
   ⟨0x2f00, ["aKANGXI RADICAL ONEc LINEc DOTc SLASHc SECONDc HOOKc TWOc LIDc MANc LEGSc ENTER",
      "c EIGHTc DOWN BOXc COVERc ICEc TABLEc OPEN BOXc KNIFEc POWERc WRAPc SPOONc RIGHT OPEN BOX",
      "c HIDING ENCLOSUREc TENc DIVINATIONc SEALc CLIFFc PRIVATEc AGAINc MOUTHc ENCLOSUREc EARTH",
      "c SCHOLARc GOd SLOWLYc EVENINGc BIGc WOMANc CHILDc ROOFc INCHc SMALLc LAMEc CORPSE",
      "c SPROUTc MOUNTAINc RIVERc WORKc ONESELFc TURBANc DRYc SHORT THREADc DOTTED CLIFF",
      "c LONG STRIDEc TWO HANDSc SHOOTc BOWc SNOUTc BRISTLEc STEPc HEARTc HALBERDc DOORc HAND",
      "c BRANCHc RAPc SCRIPTc DIPPERc AXEc SQUAREc NOTc SUNc SAYc MOONc TREEc LACKc STOPc DEATH",
      "c WEAPONc DO NOTc COMPAREc FURc CLANc STEAMc WATERc FIREc CLAWc FATHERc DOUBLE X",
      "c HALF TREE TRUNKc SLICEc FANGc COWc DOGc PROFOUNDc JADEc MELONc TILEc SWEETc LIFEc USE",
      "c FIELDc BOLT OF CLOTHc SICKNESSc DOTTED TENTc WHITEc SKINc DISHc EYEc SPEARc ARROW",
      "c STONEc SPIRITc TRACKc GRAINc CAVEc STANDc BAMBOOc RICEc SILKc JARc NETc SHEEPc FEATHER",
      "c OLDc ANDc PLOWc EARc BRUSHc MEATc MINISTERc SELFc ARRIVEc MORTARc TONGUEc OPPOSEc BOAT",
      "c STOPPINGc COLORc GRASSc TIGERc INSECTc BLOODc WALK ENCLOSUREc CLOTHESc WESTc SEEc HORN",
      "c SPEECHc VALLEYc BEANc PIGc BADGERc SHELLc REDc RUNc FOOTc BODYc CARTc BITTERc MORNING",
      "c WALKc CITYc WINEc DISTINGUISHc VILLAGEc GOLDc LONGc GATEc MOUNDc SLAVE",
      "c SHORT TAILED BIRDc RAINc BLUEc WRONGc FACEc LEATHERc TANNEDnc LEEKc SOUNDc LEAFc WIND",
      "c FLYc EATc HEADc FRAGRANTc HORSEc BONEc TALLc HAIRc FIGHTc SACRIFICIAL WINEc CAULDRON",
      "c GHOSTc FISHc BIRDc SALTc DEERc WHEATc HEMPc YELLOWc MILLETc BLACKc EMBROIDERYc FROG",
      "c TRIPODc DRUMc RATc NOSEc EVENc TOOTHc DRAGONc TURTLEc FLUTE"]⟩,
   ⟨0x2ff0, ["aIDEOGRAPHIC DESCRIPTION CHARACTER LEFT TO RIGHTd ABOVE TO BELOW",
      "d LEFT TO MIDDLE AND RIGHTd ABOVE TO MIDDLE AND BELOWd FULL SURROUNDd SURROUND FROM ABOVE",
      "f BELOWf LEFTf UPPERng RIGHTf LOWER LEFTd OVERLAID"]⟩,
   ⟨0x3000, ["aIDEOGRAPHIC SPACEb COMMAb FULL STOPaDITTO MARK",
      "aJAPANESE INDUSTRIAL STANDARD SYMBOLaIDEOGRAPHIC ITERATION MARKb CLOSINGnb NUMBER ZERO",
      "aLEFT ANGLE BRACKETaRIGHToaLEFT DOUBLEoaRIGHTpaLEFT CORNERnaRIGHToaLEFT WHITEoaRIGHTp",
      "aLEFT BLACK LENTICULARnaRIGHTpaPOSTAL MARKaGETAnaLEFT TORTOISE SHELL BRACKETaRIGHTp",
      "aLEFT WHITE LENTICULARnaRIGHTpaLEFT WHITE TORTOISE SHELLnaRIGHTqaLEFT WHITE SQUAREn",
      "aRIGHTpaWAVE DASHaREVERSED DOUBLE PRIME QUOTATION MARKaDOUBLEpaLOW DOUBLEp",
      "aPOSTAL MARK FACEaHANGZHOU NUMERAL ONEc TWOc THREEc FOURc FIVEc SIXc SEVENc EIGHTc NINE",
      "aIDEOGRAPHIC LEVEL TONE MARKb RISINGob DEPARTINGob ENTERINGoaHANGUL SINGLE DOTob DOUBLEp",
      "aWAVY DASHaVERTICAL KANA REPEAT MARKd WITH VOICED SOUNDnd MARK UPPER HALF",
      "d WITH VOICED SOUNDpd MARK LOWERnaCIRCLED POSTAL MARK",
      "aIDEOGRAPHIC TELEGRAPH LINE FEED SEPARATOR SYMBOLaHANGZHOU NUMERAL TENc TWENTYc THIRTY",
      "aVERTICAL IDEOGRAPHIC ITERATION MARKaMASUnaPART ALTERNATIONn",
      "aIDEOGRAPHIC VARIATION INDICATORb HALF FILL SPACE"]⟩,
   ⟨0x3041, ["aHIRAGANA LETTER SMALL Acnc SMALL Icnc SMALL Ucnc SMALL Ecnc SMALL Ocnc KAc GAc KI",
      "c GIc KUc GUc KEc GEc KOc GOc SAc ZAc SIc ZIc SUc ZUc SEc ZEc SOc ZOc TAc DAc TIc DI",
      "c SMALL TUcnc DUc TEc DEc TOc DOc NAc NIc NUc NEc NOc HAc BAc PAc HIc BIc PIc HUc BUc PU",
      "c HEc BEc PEc HOc BOc POc MAc MIc MUc MEc MOc SMALL YAcnc SMALL YUcnc SMALL YOcnc RAc RI",
      "c RUc REc ROc SMALL WAcnc WIc WEc WOc Nc VUc SMALL KAd KE"]⟩,
   ⟨0x3099, ["aCOMBINING KATAKANA-HIRAGANA VOICED SOUND MARKd SEMI-VOICEDo",
      "aKATAKANA-HIRAGANA VOICEDoc SEMI-VOICEDoaHIRAGANA ITERATIONnb VOICEDob DIGRAPH YORI",
      "aKATAKANA-HIRAGANA DOUBLE HYPHENb LETTER SMALL Acnc SMALL Icnc SMALL Ucnc SMALL Ecn",
      "c SMALL Ocnc KAc GAc KIc GIc KUc GUc KEc GEc KOc GOc SAc ZAc SIc ZIc SUc ZUc SEc ZEc SO",
      "c ZOc TAc DAc TIc DIc SMALL TUcnc DUc TEc DEc TOc DOc NAc NIc NUc NEc NOc HAc BAc PAc HI",
      "c BIc PIc HUc BUc PUc HEc BEc PEc HOc BOc POc MAc MIc MUc MEc MOc SMALL YAcnc SMALL YUcn",
      "c SMALL YOcnc RAc RIc RUc REc ROc SMALL WAcnc WIc WEc WOc Nc VUc SMALL KAd KEc VAc VIc VE",
      "c VOb MIDDLE DOTb-HIRAGANA PROLONGED SOUND MARKb ITERATIONnb VOICEDob DIGRAPH KOTO"]⟩,
   ⟨0x3105, ["aBOPOMOFO LETTER Bc Pc Mc Fc Dc Tc Nc Lc Gc Kc Hc Jc Qc Xc ZHc CHc SHc Rc Zc Cc S",
      "c Ac Oc Ec EHc AIc EIc AUc OUc ANc ENc ANGc ENGc ERc Ic Uc IUc Vc NGc GNc IH",
      "c O WITH DOT ABOVEc NN"]⟩,
   ⟨0x3131, ["aHANGUL LETTER KIYEOKc SSANGKIYEOKc KIYEOK-SIOSc NIEUNd-CIEUCd-HIEUHc TIKEUT",
      "c SSANGTIKEUTc RIEULd-KIYEOKd-MIEUMd-PIEUPd-SIOSd-THIEUTHd-PHIEUPHd-HIEUHc MIEUMc PIEUP",
      "c SSANGPIEUPc PIEUP-SIOSc SIOSc SSANGSIOSc IEUNGc CIEUCc SSANGCIEUCc CHIEUCHc KHIEUKH",
      "c THIEUTHc PHIEUPHc HIEUHc Ac AEc YAc YAEc EOc Ec YEOc YEc Oc WAc WAEc OEc YOc Uc WEOc WE",
      "c WIc YUc EUc YIc Ib FILLERb LETTER SSANGNIEUNc NIEUN-TIKEUTd-SIOSd-PANSIOS",
      "c RIEUL-KIYEOK-SIOSd-TIKEUTd-PIEUP-SIOSd-PANSIOSd-YEORINHIEUHc MIEUM-PIEUPd-SIOSd-PANSIOS",
      "c KAPYEOUNMIEUMc PIEUP-KIYEOKd-TIKEUTd-SIOS-KIYEOKe-TIKEUTd-CIEUCd-THIEUTHc KAPYEOUNPIEUP",
      "c KAPYEOUNSSANGPIEUPc SIOS-KIYEOKd-NIEUNd-TIKEUTd-PIEUPd-CIEUCc PANSIOSc SSANGIEUNG",
      "c YESIEUNGd-SIOSd-PANSIOSc KAPYEOUNPHIEUPHc SSANGHIEUHc YEORINHIEUHc YO-YAd-YAEd-I",
      "c YU-YEOd-YEd-Ic ARAEAc ARAEAE"]⟩,
   ⟨0x3190, ["aIDEOGRAPHIC ANNOTATION LINKING MARKc REVERSEnc ONEnc TWOnc THREEnc FOURnc TOPn",
      "c MIDDLEnc BOTTOMnc FIRSTnc SECONDnc THIRDnc FOURTHnc HEAVENnc EARTHnc MANn",
      "aBOPOMOFO LETTER BUc ZIc JIc GUc EEc ENNc OOc ONNc IRc ANNc INNc UNNc IMc NGGc AINNc AUNN",
      "c AMc OMc ONGc INNNb FINAL LETTER Pd Td Kd Hb LETTER GHc LHc ZYb FINAL LETTER G",
      "b LETTER GWc KWc OEc AHaCJK STROKE Tc WGc XGc BXGc SWc HZZc HZGc HPc HZWGc SZWGc HZT",
      "c HZZPc HPWGc HZWc HZZZc Nc Hc Sc Pc SPc Dc HZc HGc SZc SWZc STc SGc PDc PZc TNc SZZc SWG",
      "c HXWGc HZZZGc PGc Q"]⟩,
   ⟨0x31f0, ["aKATAKANA LETTER SMALL KUd SId SUd TOd NUd HAd HId HUd HEd HOd MUd RAd RId RUd RE",
      "d ROaPARENTHESIZED HANGUL KIYEOKc NIEUNc TIKEUTc RIEULc MIEUMc PIEUPc SIOSc IEUNGc CIEUC",
      "c CHIEUCHc KHIEUKHc THIEUTHc PHIEUPHc HIEUHc KIYEOK Ac NIEUNnc TIKEUTnc RIEULnc MIEUMn",
      "c PIEUPnc SIOSnc IEUNGnc CIEUCnc CHIEUCHnc KHIEUKHnc THIEUTHnc PHIEUPHnc HIEUHnc CIEUC U",
      "b KOREAN CHARACTER OJEONd O HU"]⟩,
   ⟨0x3220, ["aPARENTHESIZED IDEOGRAPH ONEc TWOc THREEc FOURc FIVEc SIXc SEVENc EIGHTc NINEc TEN",
      "c MOONc FIREc WATERc WOODc METALc EARTHc SUNc STOCKc HAVEc SOCIETYc NAMEc SPECIAL",
      "c FINANCIALc CONGRATULATIONc LABORc REPRESENTc CALLc STUDYc SUPERVISEc ENTERPRISE",
      "c RESOURCEc ALLIANCEc FESTIVALc RESTc SELFc REACHaCIRCLED IDEOGRAPH QUESTION",
      "c KINDERGARTENc SCHOOLc KOTOb NUMBER TEN ON BLACK SQUAREc TWENTYpc THIRTYpc FORTYp",
      "c FIFTYpc SIXTYpc SEVENTYpc EIGHTYpaPARTNERSHIP SIGNaCIRCLED NUMBER TWENTY ONEd TWO",
      "d THREEd FOURd FIVEd SIXd SEVENd EIGHTd NINEc THIRTYd ONEd TWOd THREEd FOURd FIVE",
      "b HANGUL KIYEOKc NIEUNc TIKEUTc RIEULc MIEUMc PIEUPc SIOSc IEUNGc CIEUCc CHIEUCHc KHIEUKH",
      "c THIEUTHc PHIEUPHc HIEUHc KIYEOK Ac NIEUNnc TIKEUTnc RIEULnc MIEUMnc PIEUPnc SIOSn",
      "c IEUNGnc CIEUCnc CHIEUCHnc KHIEUKHnc THIEUTHnc PHIEUPHnc HIEUHnb KOREAN CHARACTER CHAMKO",
      "d JUEUIb HANGUL IEUNG UaKOREAN STANDARD SYMBOLaCIRCLED IDEOGRAPH ONEc TWOc THREEc FOUR",
      "c FIVEc SIXc SEVENc EIGHTc NINEc TENc MOONc FIREc WATERc WOODc METALc EARTHc SUNc STOCK",
      "c HAVEc SOCIETYc NAMEc SPECIALc FINANCIALc CONGRATULATIONc LABORc SECRETc MALEc FEMALE",
      "c SUITABLEc EXCELLENTc PRINTc ATTENTIONc ITEMc RESTc COPYc CORRECTc HIGHc CENTREc LOW",
      "c LEFTc RIGHTc MEDICINEc RELIGIONc STUDYc SUPERVISEc ENTERPRISEc RESOURCEc ALLIANCE",
      "c NIGHTb NUMBER THIRTY SIXd SEVENd EIGHTd NINEc FORTYd ONEd TWOd THREEd FOURd FIVEd SIX",
      "d SEVENd EIGHTd NINEc FIFTYaIDEOGRAPHIC TELEGRAPH SYMBOL FOR JANUARYe FEBRUARYe MARCH",
      "e APRILe MAYe JUNEe JULYe AUGUSTe SEPTEMBERe OCTOBERe NOVEMBERe DECEMBERaSQUARE HGb ERG",
      "b EVaLIMITED LIABILITY SIGNaCIRCLED KATAKANA Ac Ic Uc Ec Oc KAc KIc KUc KEc KOc SAc SI",
      "c SUc SEc SOc TAc TIc TUc TEc TOc NAc NIc NUc NEc NOc HAc HIc HUc HEc HOc MAc MIc MUc ME",
      "c MOc YAc YUc YOc RAc RIc RUc REc ROc WAc WIc WEc WOaSQUARE ERA NAME REIWAb APAATO",
      "b ARUHUAb ANPEAb AARUb ININGUb INTIb UONb ESUKUUDOb EEKAAb ONSUb OOMUb KAIRIb KARATTO",
      "b KARORIIb GARONb GANMAb GIGAb GINIIb KYURIIb GIRUDAAb KIROb KIROGURAMUb KIROMEETORU",
      "b KIROWATTOb GURAMUb GURAMUTONb KURUZEIROb KUROONEb KEESUb KORUNAb KOOPOb SAIKURU",
      "b SANTIIMUb SIRINGUb SENTIb SENTOb DAASUb DESIb DORUb TONb NANOb NOTTOb HAITUb PAASENTO",
      "b PAATUb BAARERUb PIASUTORUb PIKURUb PIKOb BIRUb HUARADDOb HUIITOb BUSSYERUb HURAN",
      "b HEKUTAARUb PESOb PENIHIb HERUTUb PENSUb PEEZIb BEETAb POINTOb BORUTOb HONb PONDOb HOORU",
      "b HOONb MAIKUROb MAIRUb MAHHAb MARUKUb MANSYONb MIKURONb MIRIb MIRIBAARUb MEGAb MEGATON",
      "b MEETORUb YAADOb YAARUb YUANb RITTORUb RIRAb RUPIIb RUUBURUb REMUb RENTOGENb WATTO",
      "aIDEOGRAPHIC TELEGRAPH SYMBOL FOR HOUR ZEROf ONEf TWOf THREEf FOURf FIVEf SIXf SEVEN",
      "f EIGHTf NINEf TENf ELEVENf TWELVEf THIRTEENf FOURTEENf FIFTEENf SIXTEENf SEVENTEEN",
      "f EIGHTEENf NINETEENf TWENTYg-ONEg-TWOg-THREEg-FOURaSQUARE HPAb DAb AUb BARb OVb PCb DM",
      "c SQUAREDc CUBEDb IUb ERA NAME HEISEId SYOUWAd TAISYOUd MEIZIb CORPORATIONb PA AMPSb NA",
      "b MU Ab MAb KAb KBb MBb GBb CALb KCALb PFb NFb MU Fc Gb MGb KGb HZb KHZb MHZb GHZb THZ",
      "b MU Lb MLb DLb KLb FMb NMb MU Mb MMb CMb KMb MM SQUAREDb CMnb Mnb KMnb MM CUBEDb CMnb Mn",
      "b KMnb M OVER Se SQUAREDb PAb KPAb MPAb GPAb RADc OVER Se SQUAREDb PSb NSb MU Sb MSb PV",
      "b NVb MU Vb MVb KVb MV MEGAb PWb NWb MU Wb MWb KWb MW MEGAb K OHMb Mnb AMb BQb CCb CD",
      "b C OVER KGb COb DBb GYb HAb HPb INb KKb KM CAPITALb KTb LMb LNb LOGb LXb MB SMALLb MIL",
      "b MOLb PHb PMb PPMb PRb SRb SVb WBb V OVER Mb AoaIDEOGRAPHIC TELEGRAPH SYMBOL FOR DAY ONE",
      "f TWOf THREEf FOURf FIVEf SIXf SEVENf EIGHTf NINEf TENf ELEVENf TWELVEf THIRTEEN",
      "f FOURTEENf FIFTEENf SIXTEENf SEVENTEENf EIGHTEENf NINETEENf TWENTYg-ONEg-TWOg-THREE",
      "g-FOURg-FIVEg-SIXg-SEVENg-EIGHTg-NINEf THIRTYg-ONEaSQUARE GAL"]⟩,
   ⟨0x4dc0, ["aHEXAGRAM FOR THE CREATIVE HEAVENd RECEPTIVE EARTHc DIFFICULTY AT THE BEGINNING",
      "c YOUTHFUL FOLLYc WAITINGc CONFLICTc THE ARMYc HOLDING TOGETHERc SMALL TAMINGc TREADING",
      "c PEACEc STANDSTILLc FELLOWSHIPc GREAT POSSESSIONc MODESTYc ENTHUSIASMc FOLLOWING",
      "c WORK ON THE DECAYEDc APPROACHc CONTEMPLATIONc BITING THROUGHc GRACEc SPLITTING APART",
      "c RETURNc INNOCENCEc GREAT TAMINGc MOUTH CORNERSc GREAT PREPONDERANCEc THE ABYSMAL WATER",
      "d CLINGING FIREc INFLUENCEc DURATIONc RETREATc GREAT POWERc PROGRESS",
      "c DARKENING OF THE LIGHTc THE FAMILYc OPPOSITIONc OBSTRUCTIONc DELIVERANCEc DECREASE",
      "c INCREASEc BREAKTHROUGHc COMING TO MEETc GATHERING TOGETHERc PUSHING UPWARDc OPPRESSION",
      "c THE WELLc REVOLUTIONc THE CAULDRONd AROUSING THUNDERd KEEPING STILL MOUNTAIN",
      "c DEVELOPMENTc THE MARRYING MAIDENc ABUNDANCEc THE WANDERERd GENTLE WINDd JOYOUS LAKE",
      "c DISPERSIONc LIMITATIONc INNER TRUTHc SMALL PREPONDERANCEc AFTER COMPLETIONc BEFOREn"]⟩,
   ⟨0xa000, ["aYI SYLLABLE ITc IXc Ic IPc IETc IEXc IEc IEPc ATc AXc Ac APc UOXc UOc UOPc OTc OX",
      "c Oc OPc EXc Ec WUc BITc BIXc BIc BIPc BIETc BIEXc BIEc BIEPc BATc BAXc BAc BAPc BUOX",
      "c BUOc BUOPc BOTc BOXc BOc BOPc BEXc BEc BEPc BUTc BUXc BUc BUPc BURXc BURc BYTc BYXc BY",
      "c BYPc BYRXc BYRc PITc PIXc PIc PIPc PIEXc PIEc PIEPc PATc PAXc PAc PAPc PUOXc PUOc PUOP",
      "c POTc POXc POc POPc PUTc PUXc PUc PUPc PURXc PURc PYTc PYXc PYc PYPc PYRXc PYRc BBIT",
      "c BBIXc BBIc BBIPc BBIETc BBIEXc BBIEc BBIEPc BBATc BBAXc BBAc BBAPc BBUOXc BBUOc BBUOP",
      "c BBOTc BBOXc BBOc BBOPc BBEXc BBEc BBEPc BBUTc BBUXc BBUc BBUPc BBURXc BBURc BBYTc BBYX",
      "c BBYc BBYPc NBITc NBIXc NBIc NBIPc NBIEXc NBIEc NBIEPc NBATc NBAXc NBAc NBAPc NBOTc NBOX",
      "c NBOc NBOPc NBUTc NBUXc NBUc NBUPc NBURXc NBURc NBYTc NBYXc NBYc NBYPc NBYRXc NBYRc HMIT",
      "c HMIXc HMIc HMIPc HMIEXc HMIEc HMIEPc HMATc HMAXc HMAc HMAPc HMUOXc HMUOc HMUOPc HMOT",
      "c HMOXc HMOc HMOPc HMUTc HMUXc HMUc HMUPc HMURXc HMURc HMYXc HMYc HMYPc HMYRXc HMYRc MIT",
      "c MIXc MIc MIPc MIEXc MIEc MIEPc MATc MAXc MAc MAPc MUOTc MUOXc MUOc MUOPc MOTc MOXc MO",
      "c MOPc MEXc MEc MUTc MUXc MUc MUPc MURXc MURc MYTc MYXc MYc MYPc FITc FIXc FIc FIPc FAT",
      "c FAXc FAc FAPc FOXc FOc FOPc FUTc FUXc FUc FUPc FURXc FURc FYTc FYXc FYc FYPc VITc VIX",
      "c VIc VIPc VIETc VIEXc VIEc VIEPc VATc VAXc VAc VAPc VOTc VOXc VOc VOPc VEXc VEPc VUT",
      "c VUXc VUc VUPc VURXc VURc VYTc VYXc VYc VYPc VYRXc VYRc DITc DIXc DIc DIPc DIEXc DIE",
      "c DIEPc DATc DAXc DAc DAPc DUOXc DUOc DOTc DOXc DOc DOPc DEXc DEc DEPc DUTc DUXc DUc DUP",
      "c DURXc DURc TITc TIXc TIc TIPc TIEXc TIEc TIEPc TATc TAXc TAc TAPc TUOTc TUOXc TUOc TUOP",
      "c TOTc TOXc TOc TOPc TEXc TEc TEPc TUTc TUXc TUc TUPc TURXc TURc DDITc DDIXc DDIc DDIP",
      "c DDIEXc DDIEc DDIEPc DDATc DDAXc DDAc DDAPc DDUOXc DDUOc DDUOPc DDOTc DDOXc DDOc DDOP",
      "c DDEXc DDEc DDEPc DDUTc DDUXc DDUc DDUPc DDURXc DDURc NDITc NDIXc NDIc NDIPc NDIEXc NDIE",
      "c NDATc NDAXc NDAc NDAPc NDOTc NDOXc NDOc NDOPc NDEXc NDEc NDEPc NDUTc NDUXc NDUc NDUP",
      "c NDURXc NDURc HNITc HNIXc HNIc HNIPc HNIETc HNIEXc HNIEc HNIEPc HNATc HNAXc HNAc HNAP",
      "c HNUOXc HNUOc HNOTc HNOXc HNOPc HNEXc HNEc HNEPc HNUTc NITc NIXc NIc NIPc NIEXc NIE",
      "c NIEPc NAXc NAc NAPc NUOXc NUOc NUOPc NOTc NOXc NOc NOPc NEXc NEc NEPc NUTc NUXc NUc NUP",
      "c NURXc NURc HLITc HLIXc HLIc HLIPc HLIEXc HLIEc HLIEPc HLATc HLAXc HLAc HLAPc HLUOX",
      "c HLUOc HLUOPc HLOXc HLOc HLOPc HLEXc HLEc HLEPc HLUTc HLUXc HLUc HLUPc HLURXc HLURc HLYT",
      "c HLYXc HLYc HLYPc HLYRXc HLYRc LITc LIXc LIc LIPc LIETc LIEXc LIEc LIEPc LATc LAXc LA",
      "c LAPc LUOTc LUOXc LUOc LUOPc LOTc LOXc LOc LOPc LEXc LEc LEPc LUTc LUXc LUc LUPc LURX",
      "c LURc LYTc LYXc LYc LYPc LYRXc LYRc GITc GIXc GIc GIPc GIETc GIEXc GIEc GIEPc GATc GAX",
      "c GAc GAPc GUOTc GUOXc GUOc GUOPc GOTc GOXc GOc GOPc GETc GEXc GEc GEPc GUTc GUXc GUc GUP",
      "c GURXc GURc KITc KIXc KIc KIPc KIEXc KIEc KIEPc KATc KAXc KAc KAPc KUOXc KUOc KUOPc KOT",
      "c KOXc KOc KOPc KETc KEXc KEc KEPc KUTc KUXc KUc KUPc KURXc KURc GGITc GGIXc GGIc GGIEX",
      "c GGIEc GGIEPc GGATc GGAXc GGAc GGAPc GGUOTc GGUOXc GGUOc GGUOPc GGOTc GGOXc GGOc GGOP",
      "c GGETc GGEXc GGEc GGEPc GGUTc GGUXc GGUc GGUPc GGURXc GGURc MGIEXc MGIEc MGATc MGAXc MGA",
      "c MGAPc MGUOXc MGUOc MGUOPc MGOTc MGOXc MGOc MGOPc MGEXc MGEc MGEPc MGUTc MGUXc MGUc MGUP",
      "c MGURXc MGURc HXITc HXIXc HXIc HXIPc HXIETc HXIEXc HXIEc HXIEPc HXATc HXAXc HXAc HXAP",
      "c HXUOTc HXUOXc HXUOc HXUOPc HXOTc HXOXc HXOc HXOPc HXEXc HXEc HXEPc NGIEXc NGIEc NGIEP",
      "c NGATc NGAXc NGAc NGAPc NGUOTc NGUOXc NGUOc NGOTc NGOXc NGOc NGOPc NGEXc NGEc NGEPc HIT",
      "c HIEXc HIEc HATc HAXc HAc HAPc HUOTc HUOXc HUOc HUOPc HOTc HOXc HOc HOPc HEXc HEc HEP",
      "c WATc WAXc WAc WAPc WUOXc WUOc WUOPc WOXc WOc WOPc WEXc WEc WEPc ZITc ZIXc ZIc ZIPc ZIEX",
      "c ZIEc ZIEPc ZATc ZAXc ZAc ZAPc ZUOXc ZUOc ZUOPc ZOTc ZOXc ZOc ZOPc ZEXc ZEc ZEPc ZUT",
      "c ZUXc ZUc ZUPc ZURXc ZURc ZYTc ZYXc ZYc ZYPc ZYRXc ZYRc CITc CIXc CIc CIPc CIETc CIEX",
      "c CIEc CIEPc CATc CAXc CAc CAPc CUOXc CUOc CUOPc COTc COXc COc COPc CEXc CEc CEPc CUT",
      "c CUXc CUc CUPc CURXc CURc CYTc CYXc CYc CYPc CYRXc CYRc ZZITc ZZIXc ZZIc ZZIPc ZZIET",
      "c ZZIEXc ZZIEc ZZIEPc ZZATc ZZAXc ZZAc ZZAPc ZZOXc ZZOc ZZOPc ZZEXc ZZEc ZZEPc ZZUXc ZZU",
      "c ZZUPc ZZURXc ZZURc ZZYTc ZZYXc ZZYc ZZYPc ZZYRXc ZZYRc NZITc NZIXc NZIc NZIPc NZIEX",
      "c NZIEc NZIEPc NZATc NZAXc NZAc NZAPc NZUOXc NZUOc NZOXc NZOPc NZEXc NZEc NZUXc NZUc NZUP",
      "c NZURXc NZURc NZYTc NZYXc NZYc NZYPc NZYRXc NZYRc SITc SIXc SIc SIPc SIEXc SIEc SIEP",
      "c SATc SAXc SAc SAPc SUOXc SUOc SUOPc SOTc SOXc SOc SOPc SEXc SEc SEPc SUTc SUXc SUc SUP",
      "c SURXc SURc SYTc SYXc SYc SYPc SYRXc SYRc SSITc SSIXc SSIc SSIPc SSIEXc SSIEc SSIEP",
      "c SSATc SSAXc SSAc SSAPc SSOTc SSOXc SSOc SSOPc SSEXc SSEc SSEPc SSUTc SSUXc SSUc SSUP",
      "c SSYTc SSYXc SSYc SSYPc SSYRXc SSYRc ZHATc ZHAXc ZHAc ZHAPc ZHUOXc ZHUOc ZHUOPc ZHOT",
      "c ZHOXc ZHOc ZHOPc ZHETc ZHEXc ZHEc ZHEPc ZHUTc ZHUXc ZHUc ZHUPc ZHURXc ZHURc ZHYTc ZHYX",
      "c ZHYc ZHYPc ZHYRXc ZHYRc CHATc CHAXc CHAc CHAPc CHUOTc CHUOXc CHUOc CHUOPc CHOTc CHOX",
      "c CHOc CHOPc CHETc CHEXc CHEc CHEPc CHUXc CHUc CHUPc CHURXc CHURc CHYTc CHYXc CHYc CHYP",
      "c CHYRXc CHYRc RRAXc RRAc RRUOXc RRUOc RROTc RROXc RROc RROPc RRETc RREXc RREc RREPc RRUT",
      "c RRUXc RRUc RRUPc RRURXc RRURc RRYTc RRYXc RRYc RRYPc RRYRXc RRYRc NRATc NRAXc NRAc NRAP",
      "c NROXc NROc NROPc NRETc NREXc NREc NREPc NRUTc NRUXc NRUc NRUPc NRURXc NRURc NRYTc NRYX",
      "c NRYc NRYPc NRYRXc NRYRc SHATc SHAXc SHAc SHAPc SHUOXc SHUOc SHUOPc SHOTc SHOXc SHO",
      "c SHOPc SHETc SHEXc SHEc SHEPc SHUTc SHUXc SHUc SHUPc SHURXc SHURc SHYTc SHYXc SHYc SHYP",
      "c SHYRXc SHYRc RATc RAXc RAc RAPc RUOXc RUOc RUOPc ROTc ROXc ROc ROPc REXc REc REPc RUT",
      "c RUXc RUc RUPc RURXc RURc RYTc RYXc RYc RYPc RYRXc RYRc JITc JIXc JIc JIPc JIETc JIEX",
      "c JIEc JIEPc JUOTc JUOXc JUOc JUOPc JOTc JOXc JOc JOPc JUTc JUXc JUc JUPc JURXc JURc JYT",
      "c JYXc JYc JYPc JYRXc JYRc QITc QIXc QIc QIPc QIETc QIEXc QIEc QIEPc QUOTc QUOXc QUO",
      "c QUOPc QOTc QOXc QOc QOPc QUTc QUXc QUc QUPc QURXc QURc QYTc QYXc QYc QYPc QYRXc QYR",
      "c JJITc JJIXc JJIc JJIPc JJIETc JJIEXc JJIEc JJIEPc JJUOXc JJUOc JJUOPc JJOTc JJOXc JJO",
      "c JJOPc JJUTc JJUXc JJUc JJUPc JJURXc JJURc JJYTc JJYXc JJYc JJYPc NJITc NJIXc NJIc NJIP",
      "c NJIETc NJIEXc NJIEc NJIEPc NJUOXc NJUOc NJOTc NJOXc NJOc NJOPc NJUXc NJUc NJUPc NJURX",
      "c NJURc NJYTc NJYXc NJYc NJYPc NJYRXc NJYRc NYITc NYIXc NYIc NYIPc NYIETc NYIEXc NYIE",
      "c NYIEPc NYUOXc NYUOc NYUOPc NYOTc NYOXc NYOc NYOPc NYUTc NYUXc NYUc NYUPc XITc XIXc XI",
      "c XIPc XIETc XIEXc XIEc XIEPc XUOXc XUOc XOTc XOXc XOc XOPc XYTc XYXc XYc XYPc XYRXc XYR",
      "c YITc YIXc YIc YIPc YIETc YIEXc YIEc YIEPc YUOTc YUOXc YUOc YUOPc YOTc YOXc YOc YOPc YUT",
      "c YUXc YUc YUPc YURXc YURc YYTc YYXc YYc YYPc YYRXc YYR"]⟩,
   ⟨0xa490, ["aYI RADICAL QOTc LIc KITc NYIPc CYPc SSIc GGOPc GEPc MIc HXITc LYRc BBUTc MOPc YO",
      "c PUTc HXUOc TATc GAc ZUPc CYTc DDURc BURc GGUOc NYOPc TUc OPc JJUTc ZOTc PYTc HMOc YIT",
      "c VURc SHYc VEPc ZAc JOc NZUPc JJYc GOTc JJIEc WOc DUc SHURc LIEc CYc CUOPc CIPc HXOP",
      "c SHATc ZURc SHOPc CHEc ZZIETc NBIEc KE"]⟩,
   ⟨0xa4d0, ["aLISU LETTER BAc PAc PHAc DAc TAc THAc GAc KAc KHAc JAc CAc CHAc DZAc TSAc TSHA",
      "c MAc NAc LAc SAc ZHAc ZAc NGAc HAc XAc HHAc FAc WAc SHAc YAc GHAc Ac AEc Ec EUc Ic Oc U",
      "c UEc UHc OEc TONE MYA TId NA POd MYA CYAe BOe NAe JEUb PUNCTUATION COMMAc FULL STOP",
      "aVAI SYLLABLE EEc EENc HEEc WEEc WEENc PEEc BHEEc BEEc MBEEc KPEEc MGBEEc GBEEc FEEc VEE",
      "c TEEc THEEc DHEEc DHHEEc LEEc REEc DEEc NDEEc SEEc SHEEc ZEEc ZHEEc CEEc JEEc NJEEc YEE",
      "c KEEc NGGEEc GEEc MEEc NEEc NYEEc Ic INc HIc HINc WIc WINc PIc BHIc BIc MBIc KPIc MGBI",
      "c GBIc FIc VIc TIc THIc DHIc DHHIc LIc RIc DIc NDIc SIc SHIc ZIc ZHIc CIc JIc NJIc YIc KI",
      "c NGGIc GIc MIc NIc NYIc Ac ANc NGANc HAc HANc WAc WANc PAc BHAc BAc MBAc KPAc KPANc MGBA",
      "c GBAc FAc VAc TAc THAc DHAc DHHAc LAc RAc DAc NDAc SAc SHAc ZAc ZHAc CAc JAc NJAc YAc KA",
      "c KANc NGGAc GAc MAc NAc NYAc OOc OONc HOOc WOOc WOONc POOc BHOOc BOOc MBOOc KPOOc MGBOO",
      "c GBOOc FOOc VOOc TOOc THOOc DHOOc DHHOOc LOOc ROOc DOOc NDOOc SOOc SHOOc ZOOc ZHOOc COO",
      "c JOOc NJOOc YOOc KOOc NGGOOc GOOc MOOc NOOc NYOOc Uc UNc HUc HUNc WUc WUNc PUc BHUc BU",
      "c MBUc KPUc MGBUc GBUc FUc VUc TUc THUc DHUc DHHUc LUc RUc DUc NDUc SUc SHUc ZUc ZHUc CU",
      "c JUc NJUc YUc KUc NGGUc GUc MUc NUc NYUc Oc ONc NGONc HOc HONc WOc WONc POc BHOc BOc MBO",
      "c KPOc MGBOc GBOc GBONc FOc VOc TOc THOc DHOc DHHOc LOc ROc DOc NDOc SOc SHOc ZOc ZHOc CO",
      "c JOc NJOc YOc KOc NGGOc GOc MOc NOc NYOc Ec ENc NGENc HEc HENc WEc WENc PEc BHEc BEc MBE",
      "c KPEc KPENc MGBEc GBEc GBENc FEc VEc TEc THEc DHEc DHHEc LEc REc DEc NDEc SEc SHEc ZE",
      "c ZHEc CEc JEc NJEc YEc KEc NGGEc NGGENc GEc GENc MEc NEc NYEc NGc LENGTHENERb COMMA",
      "b FULL STOPb QUESTION MARKb SYLLABLE NDOLE FAd KAd SOOb SYMBOL FEENGc KEENGc TINGc NII",
      "c BANGc FAAc TAAc DANGc DOONGc KUNGc TONGc DO-Oc JONGb DIGIT ZEROc ONEc TWOc THREEc FOUR",
      "c FIVEc SIXc SEVENc EIGHTc NINEb SYLLABLE NDOLE MAd DO"]⟩,
   ⟨0xa640, ["aCYRILLIC CAPITAL LETTER ZEMLYAb SMALLob CAPITAL LETTER DZELOb SMALLo",
      "b CAPITAL LETTER REVERSED DZEb SMALLpb CAPITAL LETTER IOTAb SMALLob CAPITAL LETTER DJERV",
      "b SMALLob CAPITAL LETTER MONOGRAPH UKb SMALLpb CAPITAL LETTER BROAD OMEGAb SMALLp",
      "b CAPITAL LETTER NEUTRAL YERb SMALLpb CAPITAL LETTER YERU WITH BACKnb SMALLr",
      "b CAPITAL LETTER IOTIFIED YATb SMALLpb CAPITAL LETTER REVERSED YUb SMALLp",
      "b CAPITAL LETTER IOTIFIED Ab SMALLpb CAPITAL LETTER CLOSED LITTLE YUSb SMALLq",
      "b CAPITAL LETTER BLENDEDnb SMALLpb CAPITAL LETTER IOTIFIED CLOSED LITTLEnb SMALLr",
      "b CAPITAL LETTER YNb SMALLob CAPITAL LETTER REVERSED TSEb SMALLpb CAPITAL LETTER SOFT DE",
      "b SMALLpb CAPITAL LETTER SOFT ELb SMALLpb CAPITAL LETTER SOFT EMb SMALLp",
      "b CAPITAL LETTER MONOCULAR Ob SMALLpb CAPITAL LETTER BINOCULARnb SMALLp",
      "b CAPITAL LETTER DOUBLE MONOCULARnb SMALLqb LETTER MULTIOCULARnaCOMBINING CYRILLIC VZMET",
      "c TEN MILLIONS SIGNc HUNDREDoc THOUSANDoaSLAVONIC ASTERISK",
      "aCOMBINING CYRILLIC LETTER UKRAINIAN IEd Id YId Ud HARD SIGNd YERUd SOFT SIGNd OMEGA",
      "c KAVYKAc PAYEROKaCYRILLIC KAVYKAb PAYEROKb CAPITAL LETTER DWEb SMALLo",
      "b CAPITAL LETTER DZWEb SMALLob CAPITAL LETTER ZHWEb SMALLob CAPITAL LETTER CCHEb SMALLo",
      "b CAPITAL LETTER DZZEb SMALLob CAPITAL LETTER TE WITH MIDDLE HOOKb SMALLr",
      "b CAPITAL LETTER TWEb SMALLob CAPITAL LETTER TSWEb SMALLob CAPITAL LETTER TSSEb SMALLo",
      "b CAPITAL LETTER TCHEb SMALLob CAPITAL LETTER HWEb SMALLob CAPITAL LETTER SHWEb SMALLo",
      "b CAPITAL LETTER DOUBLE Ob SMALLpb CAPITAL LETTER CROSSEDnb SMALLp",
      "aMODIFIER LETTER CYRILLIC HARD SIGNd SOFTnaCOMBINING CYRILLIC LETTER EFd IOTIFIED E",
      "aBAMUM LETTER Ac KAc Uc KUc EEc REEc TAEc Oc NYIc Ic LAc PAc RIIc RIEEc LEEEEc MEEEEc TAA",
      "c NDAAc NJAEMc Mc SUUc MUc SHIIc SIc SHEUXc SEUXc KYEEc KETc NUAEc NUc NJUAEc YOQc SHU",
      "c YUQc YAc NSHAc KEUXc PEUXc NJEEc NTEEc PUEc WUEc PEEc FEEc RUc LUc MIc NIc REUXc RAE",
      "c KENc NGKWAENc NGGAc NGAc SHOc PUAEc FUc FOMc WAc NAc LIc PIc LOQc KOc MBENc RENc MEN",
      "c MAc TIc KIc MOc MBAAc TETc KPAc TENc NTUUc SAMBAc FAAMAEc KOVUUc KOGHOM",
      "b COMBINING MARK KOQNDONd TUKWENTISb NJAEMLIb FULL STOPb COLONb COMMAb SEMICOLON",
      "b QUESTION MARK"]⟩,
   ⟨0xa700, ["aMODIFIER LETTER CHINESE TONE YIN PINGe YANGne YIN SHANGe YANGne YIN QUe YANGn",
      "e YIN RUe YANGnc EXTRA-HIGH DOTTED TONE BARc HIGHpc MIDpc LOWpc EXTRA-LOWp",
      "d-HIGH DOTTED LEFT-STEMoc HIGHrc MIDrc LOWrc EXTRA-LOWrd-HIGHqc HIGHqc MIDqc LOWq",
      "c EXTRA-LOWqc DOT VERTICALnd SLASHd HORIZONTAL BARc LOWER RIGHT CORNER ANGLE",
      "c RAISED UP ARROWd DOWNnd EXCLAMATION MARKd INVERTEDoc LOWpc STRESS AND HIGH TONEe LOWn",
      "aLATIN CAPITAL LETTER EGYPTOLOGICAL ALEFb SMALLpb CAPITAL LETTER EGYPTOLOGICAL AIN",
      "b SMALLpb CAPITAL LETTER HENGb SMALLob CAPITAL LETTER TZb SMALLob CAPITAL LETTER TRESILLO",
      "b SMALLob CAPITAL LETTER CUATRILLOb SMALLob CAPITAL LETTER CUATRILLO WITH COMMAb SMALLq",
      "b LETTER SMALL CAPITAL Fe Sb CAPITAL LETTER AAb SMALLob CAPITAL LETTER AOb SMALLo",
      "b CAPITAL LETTER AUb SMALLob CAPITAL LETTER AVb SMALLo",
      "b CAPITAL LETTER AV WITH HORIZONTAL BARb SMALLrb CAPITAL LETTER AYb SMALLo",
      "b CAPITAL LETTER REVERSED C WITH DOTb SMALLrb CAPITAL LETTER K WITH STROKEb SMALLq",
      "b CAPITAL LETTER K WITH DIAGONALnb SMALLrb CAPITAL LETTER K WITH STROKE ANDob SMALLt",
      "b CAPITAL LETTER BROKEN Lb SMALLpb CAPITAL LETTER L WITH HIGH STROKEb SMALLr",
      "b CAPITAL LETTER O WITH LONG STROKE OVERLAYb SMALLsb CAPITAL LETTER O WITH LOOPb SMALLq",
      "b CAPITAL LETTER OOb SMALLob CAPITAL LETTER P WITH STROKE THROUGH DESCENDERb SMALLs",
      "b CAPITAL LETTER P WITH FLOURISHb SMALLqb CAPITAL LETTER P WITH SQUIRREL TAILb SMALLr",
      "b CAPITAL LETTER Q WITH STROKE THROUGH DESCENDERb SMALLs",
      "b CAPITAL LETTER Q WITH DIAGONAL STROKEb SMALLrb CAPITAL LETTER R ROTUNDAb SMALLp",
      "b CAPITAL LETTER RUMnb SMALLpb CAPITAL LETTER V WITH DIAGONAL STROKEb SMALLr",
      "b CAPITAL LETTER VYb SMALLob CAPITAL LETTER VISIGOTHIC Zb SMALLp",
      "b CAPITAL LETTER THORN WITH STROKEb SMALLq",
      "b CAPITAL LETTER THORN WITH STROKE THROUGH DESCENDERb SMALLsb CAPITAL LETTER VENDb SMALLo",
      "b CAPITAL LETTER ETb SMALLob CAPITAL LETTER ISb SMALLob CAPITAL LETTER CONb SMALLo",
      "aMODIFIER LETTER USaLATIN SMALL LETTER DUMd LUMd MUMd NUMd RUMb LETTER SMALL CAPITALn",
      "b SMALL LETTER TUMd UMb CAPITAL LETTER INSULAR Db SMALLpb CAPITAL LETTER INSULAR F",
      "b SMALLpb CAPITAL LETTER INSULAR Gd TURNEDob SMALLqb CAPITAL LETTER TURNED Lb SMALLp",
      "b CAPITAL LETTER INSULAR Rb SMALLpb CAPITAL LETTER INSULAR Sb SMALLp",
      "b CAPITAL LETTER INSULAR Tb SMALLpaMODIFIER LETTER LOW CIRCUMFLEX ACCENTc COLON",
      "c SHORT EQUALS SIGNaLATIN CAPITAL LETTER SALTILLOb SMALLob CAPITAL LETTER TURNED H",
      "b SMALL LETTER L WITH RETROFLEX HOOK AND BELTb LETTER SINOLOGICAL DOT",
      "b CAPITAL LETTER N WITH DESCENDERb SMALLqb CAPITAL LETTER C WITH BARb SMALLq",
      "f PALATAL HOOKd Hpb CAPITAL LETTER B WITH FLOURISHb SMALLqb CAPITAL LETTER F WITH STROKE",
      "b SMALLqb CAPITAL LETTER VOLAPUK AEb SMALLpb CAPITAL LETTER VOLAPUK OEb SMALLp",
      "b CAPITAL LETTER VOLAPUK UEb SMALLpb CAPITAL LETTER G WITH OBLIQUE STROKEb SMALLr",
      "b CAPITAL LETTER Kpb SMALLrb CAPITAL LETTER Npb SMALLrb CAPITAL LETTER Rpb SMALLr",
      "b CAPITAL LETTER Spb SMALLrb CAPITAL LETTER H WITH HOOKd REVERSED OPEN Ed SCRIPT G",
      "d L WITH BELTd SMALL CAPITAL Ib LETTER SMALL CAPITAL Qb CAPITAL LETTER TURNED Ke T",
      "d J WITH CROSSED-TAILd CHId BETAb SMALLob CAPITAL LETTER OMEGAb SMALLo",
      "b CAPITAL LETTER U WITH STROKEb SMALLqb CAPITAL LETTER GLOTTAL Ab SMALLp",
      "b CAPITAL LETTER GLOTTAL Ib SMALLpb CAPITAL LETTER GLOTTAL Ub SMALLp",
      "b CAPITAL LETTER OLD POLISH Ob SMALLqb CAPITAL LETTER ANGLICANA Wb SMALLp",
      "b CAPITAL LETTER C WITH PALATAL HOOKd S WITHnd Z WITH PALATALn",
      "d D WITH SHORT STROKE OVERLAYb SMALLsb CAPITAL LETTER Sqb SMALLs"]⟩,
   ⟨0xa7d0, ["aLATIN CAPITAL LETTER CLOSED INSULAR Gb SMALLq"]⟩,
   ⟨0xa7d3, ["aLATIN SMALL LETTER DOUBLE THORN"]⟩,
   ⟨0xa7d5, ["aLATIN SMALL LETTER DOUBLE WYNNb CAPITAL LETTER MIDDLE SCOTS Sb SMALLq",
      "b CAPITAL LETTER SIGMOIDnb SMALLp"]⟩,
   ⟨0xa7f2, ["aMODIFIER LETTER CAPITAL Cd Fd QaLATIN CAPITAL LETTER REVERSED HALF Hb SMALLq",
      "b EPIGRAPHIC LETTER SIDEWAYS IaMODIFIER LETTER CAPITAL H WITH STROKEc SMALL LIGATURE OE",
      "aLATIN LETTER SMALL CAPITAL TURNED Mb EPIGRAPHIC LETTER REVERSED Fe Pd INVERTED M",
      "d I LONGAd ARCHAIC MaSYLOTI NAGRI LETTER Ad Ic SIGN DVISVARAc LETTER Ud Ed O",
      "c SIGN HASANTAc LETTER KOd KHOd GOd GHOc SIGN ANUSVARAc LETTER COd CHOd JOd JHOd TTO",
      "d TTHOd DDOd DDHOd TOd THOd DOd DHOd NOd POd PHOd BOd BHOd MOd ROd LOd RROd SOd HO",
      "c VOWEL SIGN Ae Ie Ue Ee OOc POETRY MARK-1e-2e-3e-4c SIGN ALTERNATE HASANTA"]⟩,
   ⟨0xa830, ["aNORTH INDIC FRACTION ONE QUARTERe HALFd THREE QUARTERSd ONE SIXTEENTHe EIGHTH",
      "d THREE SIXTEENTHSc QUARTER MARKc PLACEHOLDERnc RUPEEnc QUANTITYn"]⟩,
   ⟨0xa840, ["aPHAGS-PA LETTER KAd KHAd GAd NGAd CAd CHAd JAd NYAd TAd THAd DAd NAd PAd PHAd BA",
      "d MAd TSAd TSHAd DZAd WAd ZHAd ZAd SMALL Ad YAd RAd LAd SHAd SAd HAd Ad Id Ud Ed Od QA",
      "d XAd FAd GGAd EEc SUBJOINED LETTER WAe YAc LETTER TTAd TTHAd DDAd NNAd ALTERNATE YA",
      "d VOICELESS SHAd VOICED HAd ASPIRATED FAc SUBJOINED LETTER RAc SUPERFIXEDo",
      "c LETTER CANDRABINDUc SINGLE HEAD MARKc DOUBLEoc MARK SHADd DOUBLEn"]⟩,
   ⟨0xa880, ["aSAURASHTRA SIGN ANUSVARAc VISARGAb LETTER Ac AAc Ic IIc Uc UUc VOCALIC Rd RRd L",
      "d LLc Ec EEc AIc Oc OOc AUc KAc KHAc GAc GHAc NGAc CAc CHAc JAc JHAc NYAc TTAc TTHAc DDA",
      "c DDHAc NNAc TAc THAc DAc DHAc NAc PAc PHAc BAc BHAc MAc YAc RAc LAc VAc SHAc SSAc SAc HA",
      "c LLAb CONSONANT SIGN HAARUb VOWEL SIGN AAd Id IId Ud UUd VOCALIC Re RRe Le LLd Ed EEd AI",
      "d Od OOd AUb SIGN VIRAMAc CANDRABINDU"]⟩,
   ⟨0xa8ce, ["aSAURASHTRA DANDAb DOUBLEnb DIGIT ZEROc ONEc TWOc THREEc FOURc FIVEc SIXc SEVEN",
      "c EIGHTc NINE"]⟩,
   ⟨0xa8e0, ["aCOMBINING DEVANAGARI DIGIT ZEROd ONEd TWOd THREEd FOURd FIVEd SIXd SEVENd EIGHT",
      "d NINEc LETTER Ad Ud KAd NAd PAd RAd VIc SIGN AVAGRAHA",
      "aDEVANAGARI SIGN SPACING CANDRABINDUc CANDRABINDU VIRAMAc DOUBLEoc CANDRABINDU TWOd THREE",
      "d AVAGRAHAc PUSHPIKAb GAP FILLERb CARETb HEADSTROKEb SIGN SIDDHAMb JAIN OMb LETTER AY",
      "b VOWEL SIGNnaKAYAH LI DIGIT ZEROd ONEd TWOd THREEd FOURd FIVEd SIXd SEVENd EIGHTd NINE",
      "c LETTER KAd KHAd GAd NGAd SAd SHAd ZAd NYAd TAd HTAd NAd PAd PHAd MAd DAd BAd RAd YAd LA",
      "d WAd THAd HAd VAd CAd Ad OEd Id OOc VOWEL UEd Ed Ud EEd Oc TONE PLOPHUd CALYAe PLOPHU",
      "c SIGN CWId SHYAaREJANG LETTER KAc GAc NGAc TAc DAc NAc PAc BAc MAc CAc JAc NYAc SAc RA",
      "c LAc YAc WAc HAc MBAc NGGAc NDAc NYJAc Ab VOWEL SIGN Id Ud Ed AId Od AUd EUd EA",
      "b CONSONANT SIGN NGd Nd Rd Hb VIRAMA"]⟩,
   ⟨0xa95f, ["aREJANG SECTION MARKaHANGUL CHOSEONG TIKEUT-MIEUMd-PIEUPd-SIOSd-CIEUC",
      "c RIEUL-KIYEOKd-SSANGKIYEOKd-TIKEUTd-SSANGTIKEUTd-MIEUMd-PIEUPd-SSANGPIEUPd-KAPYEOUNPIEUP",
      "d-SIOSd-CIEUCd-KHIEUKHc MIEUM-KIYEOKd-TIKEUTd-SIOSc PIEUP-SIOS-THIEUTHd-KHIEUKHd-HIEUH",
      "c SSANGSIOS-PIEUPc IEUNG-RIEULd-HIEUHc SSANGCIEUCnc SSANGTHIEUTHc PHIEUPH-HIEUH",
      "c HIEUH-SIOSc SSANGYEORINHIEUH"]⟩,
   ⟨0xa980, ["aJAVANESE SIGN PANYANGGAc CECAKc LAYARc WIGNYANb LETTER Ac I KAWIdc IIc U",
      "c PA CEREKc NGA LELETe RASWADIc Ec AIc Oc KAd SASAKd MURDAc GAd MURDAc NGAc CAd MURDAc JA",
      "c NYA MURDAc JA MAHAPRANAc NYAc TTAd MAHAPRANAc DDAd MAHAPRANAc NA MURDAc TAd MURDAc DA",
      "d MAHAPRANAc NAc PAd MURDAc BAd MURDAc MAc YAc RAd AGUNGc LAc WAc SA MURDAd MAHAPRANAd",
      "c HAb SIGN CECAK TELUb VOWEL SIGN TARUNGd TOLONGd WULUe MELIKd SUKUe MENDUTd TALING",
      "d DIRGA MUREd PEPETb CONSONANT SIGN KERETd PENGKALd CAKRAb PANGKONb LEFT RERENGGAN",
      "b RIGHTnb PADA ANDAPc MADYAc LUHURc WINDUc PANGKATc LINGSAc LUNGSIc ADEGd ADEGc PISELEH",
      "b TURNEDo"]⟩,
   ⟨0xa9cf, ["aJAVANESE PANGRANGKEPb DIGIT ZEROc ONEc TWOc THREEc FOURc FIVEc SIXc SEVENc EIGHT",
      "c NINE"]⟩,
   ⟨0xa9de, ["aJAVANESE PADA TIRTA TUMETESc ISEN-ISENaMYANMAR LETTER SHAN GHAd CHAd JHAd NNA",
      "d BHAb SIGN SHAN SAWb MODIFIER LETTER SHAN REDUPLICATIONb LETTER TAI LAING NYAe FAe GA",
      "e GHAe JAe JHAe DDAe DDHAe NNAb TAI LAING DIGIT ZEROe ONEe TWOe THREEe FOURe FIVEe SIX",
      "e SEVENe EIGHTe NINEb LETTER TAI LAING LLAe DAe DHAe BAe BHA"]⟩,
   ⟨0xaa00, ["aCHAM LETTER Ac Ic Uc Ec AIc Oc KAc KHAc GAc GHAc NGUEc NGAc CHAc CHHAc JAc JHA",
      "c NHUEc NHAc NHJAc TAc THAc DAc DHAc NUEc NAc DDAc PAc PPAc PHAc BAc BHAc MUEc MAc BBA",
      "c YAc RAc LAc VAc SSAc SAc HAb VOWEL SIGN AAd Id IId EId Ud OEd Od AId AUd UE",
      "b CONSONANT SIGN YAd RAd LAd WA"]⟩,
   ⟨0xaa40, ["aCHAM LETTER FINAL Kd Gd NGb CONSONANT SIGNob LETTER FINAL CHd Td Nd Pd Yd Rd L",
      "d SSb CONSONANT SIGN FINAL Me H"]⟩,
   ⟨0xaa50, ["aCHAM DIGIT ZEROc ONEc TWOc THREEc FOURc FIVEc SIXc SEVENc EIGHTc NINE"]⟩,
   ⟨0xaa5c, ["aCHAM PUNCTUATION SPIRALc DANDAc DOUBLEnc TRIPLEnaMYANMAR LETTER KHAMTI GAd CA",
      "d CHAd JAd JHAd NYAd TTAd TTHAd DDAd DDHAd DHAd NAd SAd HAd HHAd FA",
      "b MODIFIER LETTER KHAMTI REDUPLICATIONb LETTER KHAMTI XAd ZAd RAb LOGOGRAM KHAMTI OAYd QN",
      "d HMb SYMBOL AITON EXCLAMATIONd ONEd TWOb LETTER AITON RAb SIGN PAO KAREN TONE",
      "c TAI LAING TONE-2f-5b LETTER SHWE PALAUNG CHAe SHAaTAI VIET LETTER LOW KOd HIGHn",
      "d LOW KHOd HIGHnd LOW KHHOd HIGHnd LOW GOd HIGHnd LOW NGOd HIGHnd LOW COd HIGHnd LOW CHO",
      "d HIGHnd LOW SOd HIGHnd LOW NYOd HIGHnd LOW DOd HIGHnd LOW TOd HIGHnd LOW THOd HIGHn",
      "d LOW NOd HIGHnd LOW BOd HIGHnd LOW POd HIGHnd LOW PHOd HIGHnd LOW FOd HIGHnd LOW MO",
      "d HIGHnd LOW YOd HIGHnd LOW ROd HIGHnd LOW LOd HIGHnd LOW VOd HIGHnd LOW HOd HIGHnd LOW O",
      "d HIGHnc MAI KANGc VOWEL AAd Id UEd Ud Ed Oc MAI KHITc VOWEL IAd UEAd UAd AUEd AYd ANd AM",
      "c TONE MAI EKe NUENGe THOe SONG"]⟩,
   ⟨0xaadb, ["aTAI VIET SYMBOL KONd NUENGd SAMd HO HOId KOI KOIaMEETEI MAYEK LETTER Ed Od CHA",
      "d NYAd TTAd TTHAd DDAd DDHAd NNAd SHAd SSAc VOWEL SIGN IIe UUe AAIe AUe AAUc CHEIKHAN",
      "c AHANG KHUDAMc ANJIc SYLLABLE REPETITION MARKc WORDoc VOWEL SIGN VISARGAc VIRAMA"]⟩,
   ⟨0xab01, ["aETHIOPIC SYLLABLE TTHUc TTHIc TTHAAc TTHEEc TTHEc TTHO"]⟩,
   ⟨0xab09, ["aETHIOPIC SYLLABLE DDHUc DDHIc DDHAAc DDHEEc DDHEc DDHO"]⟩,
   ⟨0xab11, ["aETHIOPIC SYLLABLE DZUc DZIc DZAAc DZEEc DZEc DZO"]⟩,
   ⟨0xab20, ["aETHIOPIC SYLLABLE CCHHAc CCHHUc CCHHIc CCHHAAc CCHHEEc CCHHEc CCHHO"]⟩,
   ⟨0xab28, ["aETHIOPIC SYLLABLE BBAc BBUc BBIc BBAAc BBEEc BBEc BBO"]⟩,
   ⟨0xab30, ["aLATIN SMALL LETTER BARRED ALPHAd A REVERSED-SCHWAd BLACKLETTER Ed BARREDn",
      "d E WITH FLOURISHd LENIS Fd SCRIPT G WITH CROSSED-TAILd L WITH INVERTED LAZY S",
      "f DOUBLE MIDDLE TILDEf MIDDLE RINGd M WITH CROSSED-TAILd Npd ENGpd BLACKLETTER O",
      "f WITH STROKEd OPENpd INVERTED OEd TURNED OE WITH STROKEg HORIZONTALne O OPEN-O",
      "h WITH STROKEd STIRRUP Rb LETTER SMALL CAPITAL R WITH RIGHT LEG",
      "b SMALL LETTER R WITHOUT HANDLEd DOUBLE Rd R WITH CROSSED-TAILd DOUBLEqd SCRIPT R",
      "f WITH RINGd BASELINE ESHd U WITH SHORT RIGHT LEGe BARqd UId TURNEDnd U WITH LEFT HOOK",
      "d CHIe WITH LOW RIGHT RINGg LEFT SERIFd X WITH LOW RIGHT RINGf LONG LEFT LEG",
      "i AND LOW RIGHT RINGi WITH SERIFd Y WITH SHORT RIGHT LEG",
      "aMODIFIER BREVE WITH INVERTED BREVEb LETTER SMALL HENGd L WITH INVERTED LAZY S",
      "f MIDDLE TILDEd U WITH LEFT HOOKaLATIN SMALL LETTER SAKHA YATd IOTIFIED Ed OPEN OEd UO",
      "d INVERTED ALPHAaGREEK LETTER SMALL CAPITAL OMEGA",
      "aLATIN SMALL LETTER DZ DIGRAPH WITH RETROFLEX HOOKd TSqd TURNED R WITH MIDDLE TILDE",
      "aMODIFIER LETTER SMALL TURNED Wc LEFT TACKc RIGHTn"]⟩,
   ⟨0xab70, ["aCHEROKEE SMALL LETTER Ad Ed Id Od Ud Vd GAd KAd GEd GId GOd GUd GVd HAd HEd HI",
      "d HOd HUd HVd LAd LEd LId LOd LUd LVd MAd MEd MId MOd MUd NAd HNAd NAHd NEd NId NOd NU",
      "d NVd QUAd QUEd QUId QUOd QUUd QUVd SAd Sd SEd SId SOd SUd SVd DAd TAd DEd TEd DId TId DO",
      "d DUd DVd DLAd TLAd TLEd TLId TLOd TLUd TLVd TSAd TSEd TSId TSOd TSUd TSVd WAd WEd WId WO",
      "d WUd WVd YAaMEETEI MAYEK LETTER KOKd SAMd LAId MITd PAd NAd CHILd TILd KHOUd NGOUd THOU",
      "d WAId YANGd HUKd UNd Id PHAMd ATIYAd GOKd JHAMd RAId BAd JILd DILd GHOUd DHOUd BHAM",
      "d KOK LONSUMd LAInd MITnd PAnd NAnd TILnd NGOUnd Inc VOWEL SIGN ONAPe INAPe ANAPe YENAP",
      "e SOUNAPe UNAPe CHEINAPe NUNGc CHEIKHEIc LUM IYEKc APUNn"]⟩,
   ⟨0xabf0, ["aMEETEI MAYEK DIGIT ZEROd ONEd TWOd THREEd FOURd FIVEd SIXd SEVENd EIGHTd NINE"]⟩,
   ⟨0xd7b0, ["aHANGUL JUNGSEONG O-YEOd-O-Ic YO-Ad-AEd-EOc U-YEOd-I-Ic YU-AEd-Oc EU-Ad-EOd-Ed-O",
      "c I-YAnd-YAEd-YEOd-YEd-O-Id-YOd-YUd-Ic ARAEA-Ad-E"]⟩,
   ⟨0xd7cb, ["aHANGUL JONGSEONG NIEUN-RIEULd-CHIEUCHc SSANGTIKEUTd-PIEUPc TIKEUTnd-SIOSe-KIYEOK",
      "d-CIEUCd-CHIEUCHd-THIEUTHc RIEUL-SSANGKIYEOKd-KIYEOK-HIEUHc SSANGRIEUL-KHIEUKH",
      "c RIEUL-MIEUM-HIEUHd-PIEUP-TIKEUTe-PHIEUPHd-YESIEUNGd-YEORINHIEUH-HIEUHc KAPYEOUNRIEUL",
      "c MIEUM-NIEUNd-SSANGNIEUNc SSANGMIEUMc MIEUM-PIEUP-SIOSd-CIEUCc PIEUP-TIKEUT",
      "d-RIEUL-PHIEUPHd-MIEUMc SSANGPIEUPc PIEUP-SIOS-TIKEUTd-CIEUCd-CHIEUCHc SIOS-MIEUM",
      "d-KAPYEOUNPIEUPc SSANGSIOS-KIYEOKd-TIKEUTc SIOS-PANSIOSd-CIEUCd-CHIEUCHd-THIEUTHd-HIEUH",
      "c PANSIOS-PIEUPd-KAPYEOUNPIEUPc YESIEUNG-MIEUMd-HIEUHc CIEUC-PIEUPd-SSANGPIEUP",
      "c SSANGCIEUCc PHIEUPH-SIOSd-THIEUTH"]⟩,
   ⟨0xfb00, ["aLATIN SMALL LIGATURE FFd FId FLd FFId FFLd LONG S Td ST"]⟩,
   ⟨0xfb13, ["aARMENIAN SMALL LIGATURE MEN NOWe ECHe INId VEW NOWd MEN XEH"]⟩,
   ⟨0xfb1d, ["aHEBREW LETTER YOD WITH HIRIQb POINT JUDEO-SPANISH VARIKA",
      "b LIGATURE YIDDISH YOD YOD PATAHb LETTER ALTERNATIVE AYINc WIDE ALEFd DALETd HEd KAF",
      "d LAMEDd FINAL MEMd RESHd TAVc ALTERNATIVE PLUS SIGNc SHIN WITH SHIN DOTe SINn",
      "e DAGESH AND SHINng SINnc ALEF WITH PATAHe QAMATSe MAPIQc BET WITH DAGESHc GIMELoc DALETo",
      "c HE WITH MAPIQc VAV WITH DAGESHc ZAYINo"]⟩,
   ⟨0xfb38, ["aHEBREW LETTER TET WITH DAGESHc YODoc FINAL KAFocpc LAMEDo"]⟩,
   ⟨0xfb3e, ["aHEBREW LETTER MEM WITH DAGESH"]⟩,
   ⟨0xfb40, ["aHEBREW LETTER NUN WITH DAGESHc SAMEKHo"]⟩,
   ⟨0xfb43, ["aHEBREW LETTER FINAL PE WITH DAGESHcp"]⟩,
   ⟨0xfb46, ["aHEBREW LETTER TSADI WITH DAGESHc QOFoc RESHoc SHINoc TAVoc VAV WITH HOLAM",
      "c BET WITH RAFEc KAFoc PEob LIGATURE ALEF LAMEDaARABIC LETTER ALEF WASLA ISOLATED FORM",
      "e FINALnc BEEH ISOLATEDnd FINALnd INITIALnd MEDIALnc PEH ISOLATEDnd FINALnd INITIALn",
      "d MEDIALnc BEHEH ISOLATEDnd FINALnd INITIALnd MEDIALnc TTEHEH ISOLATEDnd FINALnd INITIALn",
      "d MEDIALnc TEHEH ISOLATEDnd FINALnd INITIALnd MEDIALnc TTEH ISOLATEDnd FINALnd INITIALn",
      "d MEDIALnc VEH ISOLATEDnd FINALnd INITIALnd MEDIALnc PEHEH ISOLATEDnd FINALnd INITIALn",
      "d MEDIALnc DYEH ISOLATEDnd FINALnd INITIALnd MEDIALnc NYEH ISOLATEDnd FINALnd INITIALn",
      "d MEDIALnc TCHEH ISOLATEDnd FINALnd INITIALnd MEDIALnc TCHEHEH ISOLATEDnd FINALn",
      "d INITIALnd MEDIALnc DDAHAL ISOLATEDnd FINALnc DAHAL ISOLATEDnd FINALnc DUL ISOLATEDn",
      "d FINALnc DDAL ISOLATEDnd FINALnc JEH ISOLATEDnd FINALnc RREH ISOLATEDnd FINALn",
      "c KEHEH ISOLATEDnd FINALnd INITIALnd MEDIALnc GAF ISOLATEDnd FINALnd INITIALnd MEDIALn",
      "c GUEH ISOLATEDnd FINALnd INITIALnd MEDIALnc NGOEH ISOLATEDnd FINALnd INITIALnd MEDIALn",
      "c NOON GHUNNA ISOLATEDne FINALnc RNOON ISOLATEDnd FINALnd INITIALnd MEDIALn",
      "c HEH WITH YEH ABOVE ISOLATEDng FINALnd GOAL ISOLATEDne FINALne INITIALne MEDIALn",
      "d DOACHASHMEE ISOLATEDne FINALne INITIALne MEDIALnc YEH BARREE ISOLATEDne FINALn",
      "e WITH HAMZA ABOVE ISOLATEDnh FINALnb SYMBOL DOT ABOVEd BELOWc TWO DOTS ABOVEe BELOW",
      "c THREE DOTS ABOVEe BELOWe POINTING DOWNWARDS ABOVEg BELOWc FOUR DOTS ABOVEe BELOW",
      "c DOUBLE VERTICAL BARnc TWO DOTS VERTICALLY ABOVEf BELOWc RINGc SMALL TAH ABOVEe BELOW",
      "c WASLA ABOVE"]⟩,
   ⟨0xfbd3, ["aARABIC LETTER NG ISOLATED FORMd FINALnd INITIALnd MEDIALnc U ISOLATEDnd FINALn",
      "c OE ISOLATEDnd FINALnc YU ISOLATEDnd FINALnc U WITH HAMZA ABOVE ISOLATEDnc VEod FINALn",
      "c KIRGHIZ OE ISOLATEDne FINALnd YU ISOLATEDne FINALnc E ISOLATEDnd FINALnd INITIALn",
      "d MEDIALnc UIGHUR KAZAKH KIRGHIZ ALEF MAKSURA INITIALnh MEDIALn",
      "b LIGATURE YEH WITH HAMZA ABOVE WITH ALEF ISOLATEDni FINALnh AE ISOLATEDni FINALn",
      "h WAW ISOLATEDni FINALnh U ISOLATEDni FINALnh OE ISOLATEDni FINALnh YU ISOLATEDni FINALn",
      "h E ISOLATEDni FINALni INITIALn",
      "c UIGHUR KIRGHIZ YEH WITH HAMZA ABOVE WITH ALEF MAKSURA ISOLATEDnl FINALnl INITIALn",
      "b LETTER FARSI YEH ISOLATEDne FINALne INITIALne MEDIALn",
      "b LIGATURE YEH WITH HAMZA ABOVE WITH JEEM ISOLATEDnh HAHoh MEEMoh ALEF MAKSURAoh YEHo",
      "c BEH WITH JEEMoe HAHoe KHAHoe MEEMoe ALEF MAKSURAoe YEHoc TEH WITH JEEMoe HAHoe KHAHo",
      "e MEEMoe ALEF MAKSURAoe YEHoc THEH WITH JEEMoe MEEMoe ALEF MAKSURAoe YEHoc JEEM WITH HAHo",
      "e MEEMoc HAH WITH JEEMoe MEEMoc KHAH WITH JEEMoe HAHoe MEEMoc SEEN WITH JEEMoe HAHo",
      "e KHAHoe MEEMoc SAD WITH HAHoe MEEMoc DAD WITH JEEMoe HAHoe KHAHoe MEEMoc TAH WITH HAHo",
      "e MEEMoc ZAHqc AIN WITH JEEMoe MEEMoc GHAIN WITH JEEMoe MEEMoc FEH WITH JEEMoe HAHo",
      "e KHAHoe MEEMoe ALEF MAKSURAoe YEHoc QAF WITH HAHoe MEEMoe ALEF MAKSURAoe YEHo",
      "c KAF WITH ALEFoe JEEMoe HAHoe KHAHoe LAMoe MEEMoe ALEF MAKSURAoe YEHoc LAM WITH JEEMo",
      "e HAHoe KHAHoe MEEMoe ALEF MAKSURAoe YEHoc MEEM WITH JEEMoe HAHoe KHAHoe MEEMo",
      "e ALEF MAKSURAoe YEHoc NOON WITH JEEMoe HAHoe KHAHoe MEEMoe ALEF MAKSURAoe YEHo",
      "c HEH WITH JEEMoe MEEMoe ALEF MAKSURAoe YEHoc YEH WITH JEEMoe HAHoe KHAHoe MEEMo",
      "e ALEF MAKSURAoe YEHoc THAL WITH SUPERSCRIPT ALEFoc REHrc ALEF MAKSURAr",
      "c SHADDA WITH DAMMATANoe KASRATANoe FATHAoe DAMMAoe KASRAoe SUPERSCRIPT ALEFo",
      "c YEH WITH HAMZA ABOVE WITH REH FINALnh ZAINoh MEEMoh NOONoh ALEF MAKSURAoh YEHo",
      "c BEH WITH REHoe ZAINoe MEEMoe NOONoe ALEF MAKSURAoe YEHoc TEH WITH REHoe ZAINoe MEEMo",
      "e NOONoe ALEF MAKSURAoe YEHoc THEH WITH REHoe ZAINoe MEEMoe NOONoe ALEF MAKSURAoe YEHo",
      "c FEH WITH ALEF MAKSURAoe YEHoc QAF WITH ALEF MAKSURAoe YEHoc KAF WITH ALEFoe LAMoe MEEMo",
      "e ALEF MAKSURAoe YEHoc LAM WITH MEEMoe ALEF MAKSURAoe YEHoc MEEM WITH ALEFoe MEEMo",
      "c NOON WITH REHoe ZAINoe MEEMoe NOONoe ALEF MAKSURAoe YEHo",
      "c ALEF MAKSURA WITH SUPERSCRIPT ALEFoc YEH WITH REHoe ZAINoe MEEMoe NOONoe ALEF MAKSURAo",
      "e YEHoe HAMZA ABOVE WITH JEEM INITIALnh HAHoh KHAHoh MEEMoh HEHoc BEH WITH JEEMoe HAHo",
      "e KHAHoe MEEMoe HEHoc TEH WITH JEEMoe HAHoe KHAHoe MEEMoe HEHoc THEH WITH MEEMo",
      "c JEEM WITH HAHoe MEEMoc HAH WITH JEEMoe MEEMoc KHAH WITH JEEMoe MEEMoc SEEN WITH JEEMo",
      "e HAHoe KHAHoe MEEMoc SAD WITH HAHoe KHAHoe MEEMoc DAD WITH JEEMoe HAHoe KHAHoe MEEMo",
      "c TAH WITH HAHoc ZAH WITH MEEMoc AIN WITH JEEMoe MEEMoc GHAIN WITH JEEMoe MEEMo",
      "c FEH WITH JEEMoe HAHoe KHAHoe MEEMoc QAF WITH HAHoe MEEMoc KAF WITH JEEMoe HAHoe KHAHo",
      "e LAMoe MEEMoc LAM WITH JEEMoe HAHoe KHAHoe MEEMoe HEHoc MEEM WITH JEEMoe HAHoe KHAHo",
      "e MEEMoc NOON WITH JEEMoe HAHoe KHAHoe MEEMoe HEHoc HEH WITH JEEMoe MEEMo",
      "e SUPERSCRIPT ALEFoc YEH WITH JEEMoe HAHoe KHAHoe MEEMoe HEHo",
      "e HAMZA ABOVE WITH MEEM MEDIALnh HEHoc BEH WITH MEEMoe HEHoc TEH WITH MEEMoe HEHo",
      "c THEH WITH MEEMoe HEHoc SEEN WITH MEEMoe HEHoc SHEEN WITH MEEMoe HEHoc KAF WITH LAMo",
      "e MEEMoc LAMqc NOONqe HEHoc YEH WITH MEEMoe HEHoc SHADDA WITH FATHAoe DAMMAoe KASRAo",
      "c TAH WITH ALEF MAKSURA ISOLATEDne YEHoc AIN WITH ALEF MAKSURAoe YEHo",
      "c GHAIN WITH ALEF MAKSURAoe YEHoc SEEN WITH ALEF MAKSURAoe YEHoc SHEEN WITH ALEF MAKSURAo",
      "e YEHoc HAH WITH ALEF MAKSURAoe YEHoc JEEM WITH ALEF MAKSURAoe YEHo",
      "c KHAH WITH ALEF MAKSURAoe YEHoc SAD WITH ALEF MAKSURAoe YEHoc DAD WITH ALEF MAKSURAo",
      "e YEHoc SHEEN WITH JEEMoe HAHoe KHAHoe MEEMoe REHoc SEENqc SADqc DADq",
      "c TAH WITH ALEF MAKSURA FINALne YEHoc AIN WITH ALEF MAKSURAoe YEHo",
      "c GHAIN WITH ALEF MAKSURAoe YEHoc SEEN WITH ALEF MAKSURAoe YEHoc SHEEN WITH ALEF MAKSURAo",
      "e YEHoc HAH WITH ALEF MAKSURAoe YEHoc JEEM WITH ALEF MAKSURAoe YEHo",
      "c KHAH WITH ALEF MAKSURAoe YEHoc SAD WITH ALEF MAKSURAoe YEHoc DAD WITH ALEF MAKSURAo",
      "e YEHoc SHEEN WITH JEEMoe HAHoe KHAHoe MEEMoe REHoc SEENqc SADqc DADq",
      "c SHEEN WITH JEEM INITIALne HAHoe KHAHoe MEEMoc SEEN WITH HEHoc SHEENqc TAH WITH MEEMo",
      "c SEEN WITH JEEM MEDIALne HAHoe KHAHoc SHEEN WITH JEEMoe HAHoe KHAHoc TAH WITH MEEMo",
      "c ZAHqc ALEF WITH FATHATAN FINALnf ISOLATEDnaORNATE LEFT PARENTHESISb RIGHTn",
      "aARABIC LIGATURE RAHIMAHU ALLAAHc RADI ALLAAHU ANHe ANHAAe ANHUMe ANHUMAAe ANHUNNA",
      "c SALLALLAAHU ALAYHI WA-AALIHc ALAYHI AS-SALAAMc ALAYHIMoc ALAYHIMAAo",
      "c ALAYHI AS-SALAATU WASnc QUDDISA SIRRAHc SALLALLAHU ALAYHI WAAALIHEE WA-SALLAM",
      "c ALAYHAA AS-SALAAMc TABAARAKA WA-TAAALAAc RAHIMAHUM ALLAAH",
      "c TEH WITH JEEM WITH MEEM INITIAL FORMe HAH WITH JEEM FINALnh INITIALng MEEMoe KHAHq",
      "e MEEM WITH JEEMog HAHog KHAHoc JEEM WITH MEEM WITH HAH FINALnh INITIALn",
      "c HAH WITH MEEM WITH YEH FINALng ALEF MAKSURAoc SEEN WITH HAH WITH JEEM INITIALn",
      "e JEEM WITH HAHog ALEF MAKSURA FINALne MEEM WITH HAHoh INITIALng JEEMog MEEM FINALn",
      "h INITIALnc SAD WITH HAH WITH HAH FINALnh INITIALne MEEM WITH MEEM FINALn",
      "c SHEEN WITH HAHqh INITIALne JEEM WITH YEH FINALne MEEM WITH KHAHoh INITIALng MEEM FINALn",
      "h INITIALnc DAD WITH HAH WITH ALEF MAKSURA FINALne KHAH WITH MEEMoh INITIALn",
      "c TAH WITH MEEM WITH HAH FINALnh INITIALng MEEMog YEH FINALnc AIN WITH JEEM WITH MEEMo",
      "e MEEMqh INITIALng ALEF MAKSURA FINALnc GHAIN WITH MEEM WITH MEEMog YEHog ALEF MAKSURAo",
      "c FEH WITH KHAH WITH MEEMoh INITIALnc QAF WITH MEEM WITH HAH FINALng MEEMoc LAM WITH HAHq",
      "g YEHog ALEF MAKSURAoe JEEM WITH JEEM INITIALnh FINALne KHAH WITH MEEMoh INITIALn",
      "e MEEM WITH HAH FINALnh INITIALnc MEEM WITH HAH WITH JEEMog MEEMog YEH FINALn",
      "e JEEM WITH HAH INITIALng MEEMoe KHAH WITH JEEMog MEEMo"]⟩,
   ⟨0xfd92, ["aARABIC LIGATURE MEEM WITH JEEM WITH KHAH INITIAL FORMc HEH WITH MEEM WITH JEEMo",
      "g MEEMoc NOON WITH HAHqg ALEF MAKSURA FINALne JEEM WITH MEEMoh INITIALn",
      "g ALEF MAKSURA FINALne MEEM WITH YEHog ALEF MAKSURAoc YEH WITH MEEM WITH MEEMoh INITIALn",
      "c BEH WITH KHAH WITH YEH FINALnc TEH WITH JEEMqg ALEF MAKSURAoe KHAH WITH YEHo",
      "g ALEF MAKSURAoe MEEM WITH YEHog ALEF MAKSURAoc JEEM WITH MEEM WITH YEHo",
      "e HAH WITH ALEF MAKSURAoe MEEMrc SEEN WITH KHAHrc SAD WITH HAH WITH YEHoc SHEENsc DADs",
      "c LAM WITH JEEMqe MEEMqc YEH WITH HAHqe JEEMqe MEEMqc MEEMsc QAFsc NOON WITH HAHq",
      "c QAF WITH MEEM WITH HAH INITIALnc LAM WITH HAH WITH MEEMoc AIN WITH MEEM WITH YEH FINALn",
      "c KAFsc NOON WITH JEEM WITH HAH INITIALnc MEEM WITH KHAH WITH YEH FINALn",
      "c LAM WITH JEEM WITH MEEM INITIALnc KAF WITH MEEM WITH MEEM FINALnc LAM WITH JEEMq",
      "c NOON WITH JEEM WITH HAHoc JEEM WITH HAH WITH YEHoc HAH WITH JEEMqc MEEMs",
      "c FEH WITH MEEMqc BEH WITH HAHqc KAF WITH MEEM WITH MEEM INITIALnc AIN WITH JEEMq",
      "c SAD WITH MEEMqc SEEN WITH KHAH WITH YEH FINALnc NOON WITH JEEMq"]⟩,
   ⟨0xfdcf, ["aARABIC LIGATURE SALAAMUHU ALAYNAA"]⟩,
   ⟨0xfdf0, ["aARABIC LIGATURE SALLA USED AS KORANIC STOP SIGN ISOLATED FORMc QALAtc ALLAHo",
      "c AKBARoc MOHAMMADoc SALAMoc RASOULoc ALAYHEoc WASALLAMoc SALLAo",
      "c SALLALLAHOU ALAYHE WASALLAMc JALLAJALALOUHOUaRIAL SIGN",
      "aARABIC LIGATURE BISMILLAH AR-RAHMAN AR-RAHEEMc SUBHAANAHU WA TAAALAAc AZZA WA JALL",
      "aVARIATION SELECTOR-1c-2c-3c-4c-5c-6c-7c-8c-9c-10c-11c-12c-13c-14c-15c-16",
      "aPRESENTATION FORM FOR VERTICAL COMMAe IDEOGRAPHICnf FULL STOPe COLONe SEMICOLON",
      "e EXCLAMATION MARKe QUESTIONne LEFT WHITE LENTICULAR BRACKET",
      "e RIGHT WHITE LENTICULAR BRAKCETe HORIZONTAL ELLIPSIS"]⟩,
   ⟨0xfe20, ["aCOMBINING LIGATURE LEFT HALFc RIGHTnb DOUBLE TILDE LEFTnd RIGHTnb MACRON LEFTn",
      "c RIGHTnb CONJOINING MACRONb LIGATURE LEFT HALF BELOWc RIGHTob TILDE LEFToc RIGHTo",
      "b MACRON LEFToc RIGHTob CONJOINING MACRONnb CYRILLIC TITLO LEFT HALFd RIGHTn",
      "aPRESENTATION FORM FOR VERTICAL TWO DOT LEADERe EM DASHe ENne LOW LINEe WAVYo",
      "e LEFT PARENTHESISe RIGHTne LEFT CURLY BRACKETe RIGHToe LEFT TORTOISE SHELLne RIGHTp",
      "e LEFT BLACK LENTICULARne RIGHTpe LEFT DOUBLE ANGLEne RIGHTpe LEFToe RIGHToe LEFT CORNERn",
      "e RIGHToe LEFT WHITEoe RIGHTpaSESAME DOTaWHITE SESAMEn",
      "aPRESENTATION FORM FOR VERTICAL LEFT SQUARE BRACKETe RIGHToaDASHED OVERLINEaCENTRELINEn",
      "aWAVYnaDOUBLE WAVYnaDASHED LOW LINEaCENTRELINEoaWAVYoaSMALL COMMAb IDEOGRAPHICn",
      "b FULL STOP"]⟩,
   ⟨0xfe54, ["aSMALL SEMICOLONb COLONb QUESTION MARKb EXCLAMATIONnb EM DASHb LEFT PARENTHESIS",
      "b RIGHTnb LEFT CURLY BRACKETb RIGHTob LEFT TORTOISE SHELLnb RIGHTpb NUMBER SIGN",
      "b AMPERSANDb ASTERISKb PLUS SIGNb HYPHEN-MINUSb LESS-THAN SIGNb GREATERob EQUALSn"]⟩,
   ⟨0xfe68, ["aSMALL REVERSE SOLIDUSb DOLLAR SIGNb PERCENTnb COMMERCIAL AT"]⟩,
   ⟨0xfe70, ["aARABIC FATHATAN ISOLATED FORMb TATWEEL WITH FATHATAN ABOVE",
      "b DAMMATAN ISOLATED FORMb TAIL FRAGMENTb KASRATAN ISOLATED FORM"]⟩,
   ⟨0xfe76, ["aARABIC FATHA ISOLATED FORMc MEDIALnb DAMMA ISOLATEDnc MEDIALnb KASRA ISOLATEDn",
      "c MEDIALnb SHADDA ISOLATEDnc MEDIALnb SUKUN ISOLATEDnc MEDIALnb LETTER HAMZA ISOLATEDn",
      "c ALEF WITH MADDA ABOVEog FINALne HAMZA ABOVE ISOLATEDng FINALn",
      "c WAW WITH HAMZA ABOVE ISOLATEDng FINALnc ALEF WITH HAMZA BELOW ISOLATEDng FINALn",
      "c YEH WITH HAMZA ABOVE ISOLATEDng FINALng INITIALng MEDIALnc ALEF ISOLATEDnd FINALn",
      "c BEH ISOLATEDnd FINALnd INITIALnd MEDIALnc TEH MARBUTA ISOLATEDne FINALnd ISOLATEDn",
      "d FINALnd INITIALnd MEDIALnc THEH ISOLATEDnd FINALnd INITIALnd MEDIALnc JEEM ISOLATEDn",
      "d FINALnd INITIALnd MEDIALnc HAH ISOLATEDnd FINALnd INITIALnd MEDIALnc KHAH ISOLATEDn",
      "d FINALnd INITIALnd MEDIALnc DAL ISOLATEDnd FINALnc THAL ISOLATEDnd FINALnc REH ISOLATEDn",
      "d FINALnc ZAIN ISOLATEDnd FINALnc SEEN ISOLATEDnd FINALnd INITIALnd MEDIALn",
      "c SHEEN ISOLATEDnd FINALnd INITIALnd MEDIALnc SAD ISOLATEDnd FINALnd INITIALnd MEDIALn",
      "c DAD ISOLATEDnd FINALnd INITIALnd MEDIALnc TAH ISOLATEDnd FINALnd INITIALnd MEDIALn",
      "c ZAH ISOLATEDnd FINALnd INITIALnd MEDIALnc AIN ISOLATEDnd FINALnd INITIALnd MEDIALn",
      "c GHAIN ISOLATEDnd FINALnd INITIALnd MEDIALnc FEH ISOLATEDnd FINALnd INITIALnd MEDIALn",
      "c QAF ISOLATEDnd FINALnd INITIALnd MEDIALnc KAF ISOLATEDnd FINALnd INITIALnd MEDIALn",
      "c LAM ISOLATEDnd FINALnd INITIALnd MEDIALnc MEEM ISOLATEDnd FINALnd INITIALnd MEDIALn",
      "c NOON ISOLATEDnd FINALnd INITIALnd MEDIALnc HEH ISOLATEDnd FINALnd INITIALnd MEDIALn",
      "c WAW ISOLATEDnd FINALnc ALEF MAKSURA ISOLATEDne FINALnc YEH ISOLATEDnd FINALnd INITIALn",
      "d MEDIALnb LIGATURE LAM WITH ALEF WITH MADDA ABOVE ISOLATEDni FINALn",
      "g HAMZA ABOVE ISOLATEDni FINALnh BELOW ISOLATEDni FINALnf ISOLATEDnf FINALn"]⟩,
   ⟨0xfeff, ["aZERO WIDTH NO-BREAK SPACE"]⟩,
   ⟨0xff01, ["aFULLWIDTH EXCLAMATION MARKb QUOTATIONnb NUMBER SIGNb DOLLARnb PERCENTnb AMPERSAND",
      "b APOSTROPHEb LEFT PARENTHESISb RIGHTnb ASTERISKb PLUS SIGNb COMMAb HYPHEN-MINUS",
      "b FULL STOPb SOLIDUSb DIGIT ZEROc ONEc TWOc THREEc FOURc FIVEc SIXc SEVENc EIGHTc NINE",
      "b COLONb SEMICOLONb LESS-THAN SIGNb EQUALSnb GREATER-THANnb QUESTION MARKb COMMERCIAL AT",
      "b LATIN CAPITAL LETTER Ae Be Ce De Ee Fe Ge He Ie Je Ke Le Me Ne Oe Pe Qe Re Se Te Ue V",
      "e We Xe Ye Zb LEFT SQUARE BRACKETb REVERSE SOLIDUSb RIGHT SQUARE BRACKET",
      "b CIRCUMFLEX ACCENTb LOW LINEb GRAVE ACCENTb LATIN SMALL LETTER Ae Be Ce De Ee Fe Ge He I",
      "e Je Ke Le Me Ne Oe Pe Qe Re Se Te Ue Ve We Xe Ye Zb LEFT CURLY BRACKETb VERTICAL LINE",
      "b RIGHT CURLY BRACKETb TILDEb LEFT WHITE PARENTHESISb RIGHTo",
      "aHALFWIDTH IDEOGRAPHIC FULL STOPb LEFT CORNER BRACKETb RIGHTob IDEOGRAPHIC COMMA",
      "b KATAKANA MIDDLE DOTc LETTER WOd SMALL Ae Ie Ue Ee Oe YAe YUe YOe TU",
      "c-HIRAGANA PROLONGED SOUND MARKc LETTER Ad Id Ud Ed Od KAd KId KUd KEd KOd SAd SId SUd SE",
      "d SOd TAd TId TUd TEd TOd NAd NId NUd NEd NOd HAd HId HUd HEd HOd MAd MId MUd MEd MOd YA",
      "d YUd YOd RAd RId RUd REd ROd WAd Nc VOICED SOUND MARKc SEMI-VOICEDob HANGUL FILLER",
      "c LETTER KIYEOKd SSANGKIYEOKd KIYEOK-SIOSd NIEUNe-CIEUCe-HIEUHd TIKEUTd SSANGTIKEUT",
      "d RIEULe-KIYEOKe-MIEUMe-PIEUPe-SIOSe-THIEUTHe-PHIEUPHe-HIEUHd MIEUMd PIEUPd SSANGPIEUP",
      "d PIEUP-SIOSd SIOSd SSANGSIOSd IEUNGd CIEUCd SSANGCIEUCd CHIEUCHd KHIEUKHd THIEUTH",
      "d PHIEUPHd HIEUH"]⟩,
   ⟨0xffc2, ["aHALFWIDTH HANGUL LETTER Ad AEd YAd YAEd EOd E"]⟩,
   ⟨0xffca, ["aHALFWIDTH HANGUL LETTER YEOd YEd Od WAd WAEd OE"]⟩,
   ⟨0xffd2, ["aHALFWIDTH HANGUL LETTER YOd Ud WEOd WEd WId YU"]⟩,
   ⟨0xffda, ["aHALFWIDTH HANGUL LETTER EUd YId I"]⟩,
   ⟨0xffe0, ["aFULLWIDTH CENT SIGNb POUNDnb NOTnb MACRONb BROKEN BARb YEN SIGNb WONn"]⟩,
   ⟨0xffe8, ["aHALFWIDTH FORMS LIGHT VERTICALb LEFTWARDS ARROWb UPWARDSnb RIGHTWARDSn",
      "b DOWNWARDSnb BLACK SQUAREb WHITE CIRCLE"]⟩,
   ⟨0xfff9, ["aINTERLINEAR ANNOTATION ANCHORc SEPARATORc TERMINATORaOBJECT REPLACEMENT CHARACTER",
      "aREPLACEMENTn"]⟩]

end QueryDepth
