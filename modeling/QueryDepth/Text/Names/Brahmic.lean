import QueryDepth.Text.NamedRun

/-! Names of the letters and marks of the scripts from Samaritan to Vedic, those of India and its
neighbours among them. -/
namespace QueryDepth

def brahmicRuns : List NamedRun :=
  [⟨0x800, ["aSAMARITAN LETTER ALAFc BITc GAMANc DALATc IYc BAAc ZENc ITc TITc YUTc KAAFc LABAT",
      "c MIMc NUNc SINGAATc INc FIc TSAADIYc QUFc RISHc SHANc TAAFb MARK INd-ALAFc OCCLUSION",
      "c DAGESHb MODIFIER LETTER EPENTHETIC YUTb MARKob VOWEL SIGN LONG Ednd OVERLONG AAd LONGn",
      "dnd OVERLONG Ad LONGndnb MODIFIER LETTER SHORTnb VOWEL SIGNod LONG Udnb MODIFIER LETTER I",
      "b VOWEL SIGN LONGndnd Od SUKUNb MARK NEQUDAA"]⟩,
   ⟨0x830, ["aSAMARITAN PUNCTUATION NEQUDAAc AFSAAQc ANGEDc BAUc ATMAAUc SHIYYAALAA",
      "b ABBREVIATION MARKb PUNCTUATION MELODIC QITSAc ZIQAAc QITSAc ZAEFc TURUc ARKAANU",
      "c SOF MASHFAATc ANNAAU"]⟩,
   ⟨0x840, ["aMANDAIC LETTER HALQAc ABc AGc ADc AHc USHENNAc AZc ITc ATTc AKSAc AKc ALc AMc AN",
      "c ASc INc APc ASZc AQc ARc ASHc ATc DUSHENNAc KADc AINb AFFRICATION MARKb VOCALIZATIONn",
      "b GEMINATIONn"]⟩,
   ⟨0x85e, ["aMANDAIC PUNCTUATION"]⟩,
   ⟨0x860, ["aSYRIAC LETTER MALAYALAM NGAd JAd NYAd TTAd NNAd NNNAd BHAd RAd LLAd LLLAd SSA"]⟩,
   ⟨0x870, ["aARABIC LETTER ALEF WITH ATTACHED FATHAf TOP RIGHTne RIGHT MIDDLE STROKEe LEFTo",
      "e ATTACHED KASRAf BOTTOM RIGHTnf ROUND DOT ABOVEf RIGHT ROUND DOTf LEFTof ROUND DOT BELOW",
      "e DOT ABOVEe ATTACHED TOP RIGHT FATHA ANDoe RIGHT MIDDLE STROKEp",
      "e ATTACHED BOTTOM RIGHT KASRApf TOP RIGHT FATHA AND LEFT RINGe RIGHT MIDDLE STROKEp",
      "e ATTACHED BOTTOM RIGHT KASRApf RIGHT HAMZAf LEFTnb TATWEEL WITH OVERSTRUCKne WAW",
      "d TWO DOTS BELOWb LETTER THIN YEHb BASELINE ROUND DOTb RAISEDo",
      "b LETTER NOON WITH INVERTED SMALL Vc HAH WITH INVERTED SMALL V BELOWc TAH WITH DOTn",
      "e THREE DOTSnc KEHEH WITH TWO DOTS VERTICALLYnb VERTICAL TAIL"]⟩,
   ⟨0x890, ["aARABIC POUND MARK ABOVEb PIASTREo"]⟩,
   ⟨0x898, ["aARABIC SMALL HIGH WORD AL-JUZc LOW WORD ISHMAAMe IMAALAe TASHEELb MADDA WAAJIB",
      "b SUPERSCRIPT ALEF MOKHASSASb DOUBLED MADDAb HALF MADDA OVERn",
      "b LETTER BEH WITH SMALL V BELOWe HAMZA ABOVEc JEEM WITH TWO DOTSnc TAHq",
      "c FEH WITH DOT BELOW AND THREEoc QAF WITH DOT BELOWc LAM WITH DOUBLE BAR",
      "c MEEM WITH THREE DOTS ABOVEc YEH WITH TWO DOTS BELOW AND HAMZAni DOTnc REH WITH LOOP",
      "c WAW WITH DOT WITHINc ROHINGYA YEHc LOW ALEFc DAL WITH THREE DOTS BELOWc SADq",
      "c GAF WITH INVERTED STROKEc STRAIGHT WAWc ZAIN WITH INVERTED V ABOVE",
      "c AIN WITH THREE DOTS BELOWc KAF WITH DOTnc QAF WITH DOT BELOW AND NO DOTS ABOVE",
      "c BEH WITH SMALL MEEMnc PEHqc TEH WITH SMALL TEHnc REH WITH SMALL NOONn",
      "c YEH WITH TWO DOTS BELOW ANDpc AFRICAN FEHd QAFd NOONc PEH WITH SMALL Vc TEHpc TTEHp",
      "c TCHEHpc KEHEHpc GHAIN WITH THREE DOTS ABOVEc AFRICAN QAFqc JEEMqg BELOW",
      "c LAM WITH SMALL ARABIC LETTER TAH ABOVEc GRAFb SMALL FARSI YEHc HIGHo",
      "d YEH BARREE WITH TWO DOTS BELOWd WORD SAHd ZAHb LARGE ROUND DOT ABOVEe BELOWb SUKUNn",
      "b LARGE CIRCLEnc ROUND DOT INSIDEob SMALL LOW WAWc HIGH WORD AR-RUBd SADd AINd QAF",
      "d NOON WITH KASRAc LOWpc HIGH WORD ATH-THALATHAe AS-SAJDAe AN-NISFe SAKTAe QIFe WAQFA",
      "d FOOTNOTE MARKERd SIGN SAFHAb DISPUTED END OF AYAHb TURNED DAMMA BELOWb CURLY FATHA",
      "c DAMMAc KASRAc FATHATANc DAMMATANc KASRATANb TONE ONE DOT ABOVEc TWO DOTSnc LOOPn",
      "c ONE DOT BELOWc TWO DOTSnc LOOPnb OPEN FATHATANc DAMMATANc KASRATANb SMALL HIGH WAW",
      "b FATHA WITH RINGd DOT ABOVEb KASRA WITH DOT BELOWb LEFT ARROWHEAD ABOVEb RIGHTo",
      "b LEFT ARROWHEAD BELOWb RIGHTob DOUBLE RIGHT ARROWHEAD ABOVEf WITH DOTbrb DAMMAo",
      "b MARK SIDEWAYS NOON GHUNNAaDEVANAGARI SIGN INVERTED CANDRABINDUcnc ANUSVARAc VISARGA",
      "b LETTER SHORT Acnc AAc Ic IIc Uc UUc VOCALIC Rd Lc CANDRA Ec SHORTncnc AIc CANDRA O",
      "c SHORTncnc AUc KAc KHAc GAc GHAc NGAc CAc CHAc JAc JHAc NYAc TTAc TTHAc DDAc DDHAc NNA",
      "c TAc THAc DAc DHAc NAc NNNAc PAc PHAc BAc BHAc MAc YAc RAc RRAc LAc LLAc LLLAc VAc SHA",
      "c SSAc SAc HAb VOWEL SIGN OEd OOEb SIGN NUKTAc AVAGRAHAb VOWEL SIGN AAd Id IId Ud UU",
      "d VOCALIC Re RRd CANDRA Ed SHORTndnd AId CANDRA Od SHORTndnd AUb SIGN VIRAMA",
      "b VOWEL SIGN PRISHTHAMATRA Ed AWb OMb STRESS SIGN UDATTAd ANUDATTAb GRAVE ACCENTb ACUTEn",
      "b VOWEL SIGN CANDRA LONG Ed UEd UUEb LETTER QAc KHHAc GHHAc ZAc DDDHAc RHAc FAc YYA",
      "c VOCALIC RRd LLb VOWEL SIGN VOCALIC Le LLb DANDAb DOUBLEnb DIGIT ZEROc ONEc TWOc THREE",
      "c FOURc FIVEc SIXc SEVENc EIGHTc NINEb ABBREVIATION SIGNb SIGN HIGH SPACING DOT",
      "b LETTER CANDRA Ac OEc OOEc AWc UEc UUEc MARWARI DDAc ZHAc HEAVY YAc GGAc JJA",
      "c GLOTTAL STOPc DDDAc BBAaBENGALI ANJIb SIGN CANDRABINDUc ANUSVARAc VISARGA"]⟩,
   ⟨0x985, ["aBENGALI LETTER Ac AAc Ic IIc Uc UUc VOCALIC Rd L"]⟩,
   ⟨0x98f, ["aBENGALI LETTER Ec AI"]⟩,
   ⟨0x993, ["aBENGALI LETTER Oc AUc KAc KHAc GAc GHAc NGAc CAc CHAc JAc JHAc NYAc TTAc TTHAc DDA",
      "c DDHAc NNAc TAc THAc DAc DHAc NA"]⟩,
   ⟨0x9aa, ["aBENGALI LETTER PAc PHAc BAc BHAc MAc YAc RA"]⟩,
   ⟨0x9b2, ["aBENGALI LETTER LA"]⟩,
   ⟨0x9b6, ["aBENGALI LETTER SHAc SSAc SAc HA"]⟩,
   ⟨0x9bc, ["aBENGALI SIGN NUKTAc AVAGRAHAb VOWEL SIGN AAd Id IId Ud UUd VOCALIC Re RR"]⟩,
   ⟨0x9c7, ["aBENGALI VOWEL SIGN Ed AI"]⟩,
   ⟨0x9cb, ["aBENGALI VOWEL SIGN Od AUb SIGN VIRAMAb LETTER KHANDA TA"]⟩,
   ⟨0x9d7, ["aBENGALI AU LENGTH MARK"]⟩,
   ⟨0x9dc, ["aBENGALI LETTER RRAc RHA"]⟩,
   ⟨0x9df, ["aBENGALI LETTER YYAc VOCALIC RRd LLb VOWEL SIGN VOCALIC Le LL"]⟩,
   ⟨0x9e6, ["aBENGALI DIGIT ZEROc ONEc TWOc THREEc FOURc FIVEc SIXc SEVENc EIGHTc NINE",
      "b LETTER RA WITH MIDDLE DIAGONALe LOWERnb RUPEE MARKc SIGNb CURRENCY NUMERATOR ONEd TWO",
      "d THREEd FOURd ONE LESS THAN THE DENOMINATORc DENOMINATOR SIXTEENb ISSHARb GANDA MARK",
      "b LETTER VEDIC ANUSVARAb ABBREVIATION SIGNb SANDHI MARK"]⟩,
   ⟨0xa01, ["aGURMUKHI SIGN ADAK BINDIcnc VISARGA"]⟩,
   ⟨0xa05, ["aGURMUKHI LETTER Ac AAc Ic IIc Uc UU"]⟩,
   ⟨0xa0f, ["aGURMUKHI LETTER EEc AI"]⟩,
   ⟨0xa13, ["aGURMUKHI LETTER OOc AUc KAc KHAc GAc GHAc NGAc CAc CHAc JAc JHAc NYAc TTAc TTHA",
      "c DDAc DDHAc NNAc TAc THAc DAc DHAc NA"]⟩,
   ⟨0xa2a, ["aGURMUKHI LETTER PAc PHAc BAc BHAc MAc YAc RA"]⟩,
   ⟨0xa32, ["aGURMUKHI LETTER LAc LLA"]⟩,
   ⟨0xa35, ["aGURMUKHI LETTER VAc SHA"]⟩,
   ⟨0xa38, ["aGURMUKHI LETTER SAc HA"]⟩,
   ⟨0xa3c, ["aGURMUKHI SIGN NUKTA"]⟩,
   ⟨0xa3e, ["aGURMUKHI VOWEL SIGN AAd Id IId Ud UU"]⟩,
   ⟨0xa47, ["aGURMUKHI VOWEL SIGN EEd AI"]⟩,
   ⟨0xa4b, ["aGURMUKHI VOWEL SIGN OOd AUb SIGN VIRAMA"]⟩,
   ⟨0xa51, ["aGURMUKHI SIGN UDAAT"]⟩,
   ⟨0xa59, ["aGURMUKHI LETTER KHHAc GHHAc ZAc RRA"]⟩,
   ⟨0xa5e, ["aGURMUKHI LETTER FA"]⟩,
   ⟨0xa66, ["aGURMUKHI DIGIT ZEROc ONEc TWOc THREEc FOURc FIVEc SIXc SEVENc EIGHTc NINEb TIPPI",
      "b ADDAKb IRIb URAb EK ONKARb SIGN YAKASHb ABBREVIATION SIGN"]⟩,
   ⟨0xa81, ["aGUJARATI SIGN CANDRABINDUc ANUSVARAc VISARGA"]⟩,
   ⟨0xa85, ["aGUJARATI LETTER Ac AAc Ic IIc Uc UUc VOCALIC Rd Lb VOWEL CANDRA E"]⟩,
   ⟨0xa8f, ["aGUJARATI LETTER Ec AIb VOWEL CANDRA O"]⟩,
   ⟨0xa93, ["aGUJARATI LETTER Oc AUc KAc KHAc GAc GHAc NGAc CAc CHAc JAc JHAc NYAc TTAc TTHA",
      "c DDAc DDHAc NNAc TAc THAc DAc DHAc NA"]⟩,
   ⟨0xaaa, ["aGUJARATI LETTER PAc PHAc BAc BHAc MAc YAc RA"]⟩,
   ⟨0xab2, ["aGUJARATI LETTER LAc LLA"]⟩,
   ⟨0xab5, ["aGUJARATI LETTER VAc SHAc SSAc SAc HA"]⟩,
   ⟨0xabc, ["aGUJARATI SIGN NUKTAc AVAGRAHAb VOWEL SIGN AAd Id IId Ud UUd VOCALIC Re RR",
      "d CANDRA E"]⟩,
   ⟨0xac7, ["aGUJARATI VOWEL SIGN Ed AId CANDRA O"]⟩,
   ⟨0xacb, ["aGUJARATI VOWEL SIGN Od AUb SIGN VIRAMA"]⟩,
   ⟨0xad0, ["aGUJARATI OM"]⟩,
   ⟨0xae0, ["aGUJARATI LETTER VOCALIC RRd LLb VOWEL SIGN VOCALIC Le LL"]⟩,
   ⟨0xae6, ["aGUJARATI DIGIT ZEROc ONEc TWOc THREEc FOURc FIVEc SIXc SEVENc EIGHTc NINE",
      "b ABBREVIATION SIGNb RUPEEn"]⟩,
   ⟨0xaf9, ["aGUJARATI LETTER ZHAb SIGN SUKUNc SHADDAc MADDAHc THREE-DOT NUKTA ABOVEc CIRCLEo",
      "c TWO-CIRCLEo"]⟩,
   ⟨0xb01, ["aORIYA SIGN CANDRABINDUc ANUSVARAc VISARGA"]⟩,
   ⟨0xb05, ["aORIYA LETTER Ac AAc Ic IIc Uc UUc VOCALIC Rd L"]⟩,
   ⟨0xb0f, ["aORIYA LETTER Ec AI"]⟩,
   ⟨0xb13, ["aORIYA LETTER Oc AUc KAc KHAc GAc GHAc NGAc CAc CHAc JAc JHAc NYAc TTAc TTHAc DDA",
      "c DDHAc NNAc TAc THAc DAc DHAc NA"]⟩,
   ⟨0xb2a, ["aORIYA LETTER PAc PHAc BAc BHAc MAc YAc RA"]⟩,
   ⟨0xb32, ["aORIYA LETTER LAc LLA"]⟩,
   ⟨0xb35, ["aORIYA LETTER VAc SHAc SSAc SAc HA"]⟩,
   ⟨0xb3c, ["aORIYA SIGN NUKTAc AVAGRAHAb VOWEL SIGN AAd Id IId Ud UUd VOCALIC Re RR"]⟩,
   ⟨0xb47, ["aORIYA VOWEL SIGN Ed AI"]⟩,
   ⟨0xb4b, ["aORIYA VOWEL SIGN Od AUb SIGN VIRAMA"]⟩,
   ⟨0xb55, ["aORIYA SIGN OVERLINEb AI LENGTH MARKb AUo"]⟩,
   ⟨0xb5c, ["aORIYA LETTER RRAc RHA"]⟩,
   ⟨0xb5f, ["aORIYA LETTER YYAc VOCALIC RRd LLb VOWEL SIGN VOCALIC Le LL"]⟩,
   ⟨0xb66, ["aORIYA DIGIT ZEROc ONEc TWOc THREEc FOURc FIVEc SIXc SEVENc EIGHTc NINEb ISSHAR",
      "b LETTER WAb FRACTION ONE QUARTERd HALFc THREE QUARTERSc ONE SIXTEENTHd EIGHTH",
      "c THREE SIXTEENTHS"]⟩,
   ⟨0xb82, ["aTAMIL SIGN ANUSVARAc VISARGA"]⟩,
   ⟨0xb85, ["aTAMIL LETTER Ac AAc Ic IIc Uc UU"]⟩,
   ⟨0xb8e, ["aTAMIL LETTER Ec EEc AI"]⟩,
   ⟨0xb92, ["aTAMIL LETTER Oc OOc AUc KA"]⟩,
   ⟨0xb99, ["aTAMIL LETTER NGAc CA"]⟩,
   ⟨0xb9c, ["aTAMIL LETTER JA"]⟩,
   ⟨0xb9e, ["aTAMIL LETTER NYAc TTA"]⟩,
   ⟨0xba3, ["aTAMIL LETTER NNAc TA"]⟩,
   ⟨0xba8, ["aTAMIL LETTER NAc NNNAc PA"]⟩,
   ⟨0xbae, ["aTAMIL LETTER MAc YAc RAc RRAc LAc LLAc LLLAc VAc SHAc SSAc SAc HA"]⟩,
   ⟨0xbbe, ["aTAMIL VOWEL SIGN AAd Id IId Ud UU"]⟩,
   ⟨0xbc6, ["aTAMIL VOWEL SIGN Ed EEd AI"]⟩,
   ⟨0xbca, ["aTAMIL VOWEL SIGN Od OOd AUb SIGN VIRAMA"]⟩,
   ⟨0xbd0, ["aTAMIL OM"]⟩,
   ⟨0xbd7, ["aTAMIL AU LENGTH MARK"]⟩,
   ⟨0xbe6, ["aTAMIL DIGIT ZEROc ONEc TWOc THREEc FOURc FIVEc SIXc SEVENc EIGHTc NINEb NUMBER TEN",
      "c ONE HUNDREDd THOUSANDb DAY SIGNb MONTHnb YEARnb DEBITnb CREDITnb AS ABOVEnb RUPEEn",
      "b NUMBERn"]⟩,
   ⟨0xc00, ["aTELUGU SIGN COMBINING CANDRABINDU ABOVEc CANDRABINDUc ANUSVARAc VISARGA",
      "c COMBINING ANUSVARA ABOVEb LETTER Ac AAc Ic IIc Uc UUc VOCALIC Rd L"]⟩,
   ⟨0xc0e, ["aTELUGU LETTER Ec EEc AI"]⟩,
   ⟨0xc12, ["aTELUGU LETTER Oc OOc AUc KAc KHAc GAc GHAc NGAc CAc CHAc JAc JHAc NYAc TTAc TTHA",
      "c DDAc DDHAc NNAc TAc THAc DAc DHAc NA"]⟩,
   ⟨0xc2a, ["aTELUGU LETTER PAc PHAc BAc BHAc MAc YAc RAc RRAc LAc LLAc LLLAc VAc SHAc SSAc SA",
      "c HA"]⟩,
   ⟨0xc3c, ["aTELUGU SIGN NUKTAc AVAGRAHAb VOWEL SIGN AAd Id IId Ud UUd VOCALIC Re RR"]⟩,
   ⟨0xc46, ["aTELUGU VOWEL SIGN Ed EEd AI"]⟩,
   ⟨0xc4a, ["aTELUGU VOWEL SIGN Od OOd AUb SIGN VIRAMA"]⟩,
   ⟨0xc55, ["aTELUGU LENGTH MARKb AIo"]⟩,
   ⟨0xc58, ["aTELUGU LETTER TSAc DZAc RRRA"]⟩,
   ⟨0xc5d, ["aTELUGU LETTER NAKAARA POLLU"]⟩,
   ⟨0xc60, ["aTELUGU LETTER VOCALIC RRd LLb VOWEL SIGN VOCALIC Le LL"]⟩,
   ⟨0xc66, ["aTELUGU DIGIT ZEROc ONEc TWOc THREEc FOURc FIVEc SIXc SEVENc EIGHTc NINE"]⟩,
   ⟨0xc77, ["aTELUGU SIGN SIDDHAMb FRACTION DIGIT ZERO FOR ODD POWERS OF FOURd ONErd TWOr",
      "d THREErd ONE FOR EVENpd TWOrd THREErb SIGN TUUMUaKANNADA SIGN SPACING CANDRABINDUcn",
      "c ANUSVARAc VISARGAc SIDDHAMb LETTER Ac AAc Ic IIc Uc UUc VOCALIC Rd L"]⟩,
   ⟨0xc8e, ["aKANNADA LETTER Ec EEc AI"]⟩,
   ⟨0xc92, ["aKANNADA LETTER Oc OOc AUc KAc KHAc GAc GHAc NGAc CAc CHAc JAc JHAc NYAc TTAc TTHA",
      "c DDAc DDHAc NNAc TAc THAc DAc DHAc NA"]⟩,
   ⟨0xcaa, ["aKANNADA LETTER PAc PHAc BAc BHAc MAc YAc RAc RRAc LAc LLA"]⟩,
   ⟨0xcb5, ["aKANNADA LETTER VAc SHAc SSAc SAc HA"]⟩,
   ⟨0xcbc, ["aKANNADA SIGN NUKTAc AVAGRAHAb VOWEL SIGN AAd Id IId Ud UUd VOCALIC Re RR"]⟩,
   ⟨0xcc6, ["aKANNADA VOWEL SIGN Ed EEd AI"]⟩,
   ⟨0xcca, ["aKANNADA VOWEL SIGN Od OOd AUb SIGN VIRAMA"]⟩,
   ⟨0xcd5, ["aKANNADA LENGTH MARKb AIo"]⟩,
   ⟨0xcdd, ["aKANNADA LETTER NAKAARA POLLUc FA"]⟩,
   ⟨0xce0, ["aKANNADA LETTER VOCALIC RRd LLb VOWEL SIGN VOCALIC Le LL"]⟩,
   ⟨0xce6, ["aKANNADA DIGIT ZEROc ONEc TWOc THREEc FOURc FIVEc SIXc SEVENc EIGHTc NINE"]⟩,
   ⟨0xcf1, ["aKANNADA SIGN JIHVAMULIYAc UPADHMANIYA"]⟩,
   ⟨0xd00, ["aMALAYALAM SIGN COMBINING ANUSVARA ABOVEc CANDRABINDUc ANUSVARAc VISARGA",
      "b LETTER VEDIC ANUSVARAc Ac AAc Ic IIc Uc UUc VOCALIC Rd L"]⟩,
   ⟨0xd0e, ["aMALAYALAM LETTER Ec EEc AI"]⟩,
   ⟨0xd12, ["aMALAYALAM LETTER Oc OOc AUc KAc KHAc GAc GHAc NGAc CAc CHAc JAc JHAc NYAc TTA",
      "c TTHAc DDAc DDHAc NNAc TAc THAc DAc DHAc NAc NNNAc PAc PHAc BAc BHAc MAc YAc RAc RRAc LA",
      "c LLAc LLLAc VAc SHAc SSAc SAc HAc TTTAb SIGN VERTICAL BAR VIRAMAc CIRCULARnc AVAGRAHA",
      "b VOWEL SIGN AAd Id IId Ud UUd VOCALIC Re RR"]⟩,
   ⟨0xd46, ["aMALAYALAM VOWEL SIGN Ed EEd AI"]⟩,
   ⟨0xd4a, ["aMALAYALAM VOWEL SIGN Od OOd AUb SIGN VIRAMAb LETTER DOT REPHb SIGN PARA"]⟩,
   ⟨0xd54, ["aMALAYALAM LETTER CHILLU Md Yd LLLb AU LENGTH MARK",
      "b FRACTION ONE ONE-HUNDRED-AND-SIXTIETHd FORTIETHc THREE EIGHTIETHSc ONE TWENTIETHd TENTH",
      "c THREE TWENTIETHSc ONE FIFTHb LETTER ARCHAIC IIc VOCALIC RRd LLb VOWEL SIGN VOCALIC L",
      "e LL"]⟩,
   ⟨0xd66, ["aMALAYALAM DIGIT ZEROc ONEc TWOc THREEc FOURc FIVEc SIXc SEVENc EIGHTc NINE",
      "b NUMBER TENc ONE HUNDREDd THOUSANDb FRACTION ONE QUARTERd HALFc THREE QUARTERS",
      "c ONE SIXTEENTHd EIGHTHc THREE SIXTEENTHSb DATE MARKb LETTER CHILLU NNd Nd RRd Ld LLd K"]⟩,
   ⟨0xd81, ["aSINHALA SIGN CANDRABINDUc ANUSVARAYAc VISARGAYA"]⟩,
   ⟨0xd85, ["aSINHALA LETTER AYANNAc AAYANNAc AEYANNAc AEEYANNAc IYANNAc IIYANNAc UYANNA",
      "c UUYANNAc IRUYANNAc IRUUYANNAc ILUYANNAc ILUUYANNAc EYANNAc EEYANNAc AIYANNAc OYANNA",
      "c OOYANNAc AUYANNA"]⟩,
   ⟨0xd9a, ["aSINHALA LETTER ALPAPRAANA KAYANNAc MAHAAPRAANAnc ALPAPRAANA GAYANNAc MAHAAPRAANAn",
      "c KANTAJA NAASIKYAYAc SANYAKA GAYANNAc ALPAPRAANA CAYANNAc MAHAAPRAANAn",
      "c ALPAPRAANA JAYANNAc MAHAAPRAANAnc TAALUJA NAASIKYAYAd SANYOOGA NAAKSIKYAYA",
      "c SANYAKA JAYANNAc ALPAPRAANA TTAYANNAc MAHAAPRAANAnc ALPAPRAANA DDAYANNAc MAHAAPRAANAn",
      "c MUURDHAJA NAYANNAc SANYAKA DDAYANNAc ALPAPRAANA TAYANNAc MAHAAPRAANAn",
      "c ALPAPRAANA DAYANNAc MAHAAPRAANAnc DANTAJA NAYANNA"]⟩,
   ⟨0xdb3, ["aSINHALA LETTER SANYAKA DAYANNAc ALPAPRAANA PAYANNAc MAHAAPRAANAn",
      "c ALPAPRAANA BAYANNAc MAHAAPRAANAnc MAYANNAc AMBA BAYANNAc YAYANNAc RAYANNA"]⟩,
   ⟨0xdbd, ["aSINHALA LETTER DANTAJA LAYANNA"]⟩,
   ⟨0xdc0, ["aSINHALA LETTER VAYANNAc TAALUJA SAYANNAc MUURDHAJAnc DANTAJAnc HAYANNA",
      "c MUURDHAJA LAYANNAc FAYANNA"]⟩,
   ⟨0xdca, ["aSINHALA SIGN AL-LAKUNA"]⟩,
   ⟨0xdcf, ["aSINHALA VOWEL SIGN AELA-PILLAd KETTI AEDAnd DIGAod KETTI ISnd DIGAod KETTI PAAn"]⟩,
   ⟨0xdd6, ["aSINHALA VOWEL SIGN DIGA PAA-PILLA"]⟩,
   ⟨0xdd8, ["aSINHALA VOWEL SIGN GAETTA-PILLAd KOMBUVAd DIGAnd KOMBU DEKA",
      "d KOMBUVA HAA AELA-PILLAf DIGAof GAYANUKITTAdn"]⟩,
   ⟨0xde6, ["aSINHALA LITH DIGIT ZEROd ONEd TWOd THREEd FOURd FIVEd SIXd SEVENd EIGHTd NINE"]⟩,
   ⟨0xdf2, ["aSINHALA VOWEL SIGN DIGA GAETTA-PILLAe GAYANUKITTAb PUNCTUATION KUNDDALIYA"]⟩,
   ⟨0xe01, ["aTHAI CHARACTER KO KAIc KHO KHAId KHUATd KHWAId KHONd RAKHANGc NGO NGUc CHO CHAN",
      "d CHINGd CHANGc SO SOc CHO CHOEc YO YINGc DO CHADAc TO PATAKc THO THANd NANGMONTHO",
      "d PHUTHAOc NO NENc DO DEKc TO TAOc THO THUNGd THAHANd THONGc NO NUc BO BAIMAIc PO PLA",
      "c PHO PHUNGc FO FAc PHO PHANc FO FANc PHO SAMPHAOc MO MAc YO YAKc RO RUAc RUc LO LINGc LU",
      "c WO WAENc SO SALAd RUSId SUAc HO HIPc LO CHULAc O ANGc HO NOKHUKc PAIYANNOIc SARA A",
      "c MAI HAN-AKATc SARA AAd AMd Id IId UEd UEEd Ud UUc PHINTHU"]⟩,
   ⟨0xe3f, ["aTHAI CURRENCY SYMBOL BAHTb CHARACTER SARA Ed AEd Od AI MAIMUANe MAIMALAI",
      "c LAKKHANGYAOc MAIYAMOKc MAITAIKHUc MAI EKd THOd TRId CHATTAWAc THANTHAKHATc NIKHAHIT",
      "c YAMAKKANc FONGMANb DIGIT ZEROc ONEc TWOc THREEc FOURc FIVEc SIXc SEVENc EIGHTc NINE",
      "b CHARACTER ANGKHANKHUc KHOMUT"]⟩,
   ⟨0xe81, ["aLAO LETTER KOc KHO SUNG"]⟩,
   ⟨0xe84, ["aLAO LETTER KHO TAM"]⟩,
   ⟨0xe86, ["aLAO LETTER PALI GHAc NGOc COc PALI CHAc SO TAM"]⟩,
   ⟨0xe8c, ["aLAO LETTER PALI JHAc NYOc PALI NYAd TTAd TTHAd DDAd DDHAd NNAc DOc TOc THO SUNG",
      "d TAMc PALI DHAc NOc BOc POc PHO SUNGc FO TAMc PHOnc FO SUNGc PALI BHAc MOc YOc LO LING"]⟩,
   ⟨0xea5, ["aLAO LETTER LO LOOT"]⟩,
   ⟨0xea7, ["aLAO LETTER WOc SANSKRIT SHAd SSAc SO SUNGc HOnc PALI LLAc Oc HO TAMb ELLIPSIS",
      "b VOWEL SIGN Ad MAI KANd AAd AMd Id IId Yd YYd Ud UUb SIGN PALI VIRAMA",
      "b VOWEL SIGN MAI KONb SEMIVOWEL SIGN LOd NYO"]⟩,
   ⟨0xec0, ["aLAO VOWEL SIGN Ed EId Od AYd AI"]⟩,
   ⟨0xec6, ["aLAO KO LA"]⟩,
   ⟨0xec8, ["aLAO TONE MAI EKd THOd TId CATAWAb CANCELLATION MARKb NIGGAHITA"]⟩,
   ⟨0xed0, ["aLAO DIGIT ZEROc ONEc TWOc THREEc FOURc FIVEc SIXc SEVENc EIGHTc NINE"]⟩,
   ⟨0xedc, ["aLAO HO NOc MOb LETTER KHMU GOd NYO"]⟩,
   ⟨0xf00, ["aTIBETAN SYLLABLE OMb MARK GTER YIG MGO TRUNCATED Af -UM RNAM BCAD MAh GTER TSHEGn",
      "c INITIAL YIG MGO MDUNnc CLOSING YIG MGO SGABnc CARET YIG MGO PHUR SHADnc YIG MGO TSHEGo",
      "c SBRUL SHADc BSKUR YIG MGOc BKA- SHOGoc INTERSYLLABIC TSHEGc DELIMITER TSHEG BSTARc SHAD",
      "c NYISnc TSHEGnc NYISoc RIN CHEN SPUNGSnc RGYA GRAMnc CARET -DZUD RTAGS ME LONG CAN",
      "c GTER TSHEGb LOGOTYPE SIGN CHAD RTAGSd LHAGnb ASTROLOGICAL SIGN SGRA GCAN -CHARn",
      "d -KHYUD PAd SDONG TSHUGSb SIGN RDEL DKAR GCIGe GNYISe GSUMd NAG GCIGe GNYIS",
      "d DKAR RDEL NAGb DIGIT ZEROc ONEc TWOc THREEc FOURc FIVEc SIXc SEVENc EIGHTc NINE",
      "c HALF ONEd TWOd THREEd FOURd FIVEd SIXd SEVENd EIGHTd NINEd ZEROb MARK BSDUS RTAGS",
      "c NGAS BZUNG NYI ZLAc CARET -DZUD RTAGS BZHI MIG CANc NGAS BZUNG SGOR RTAGSc CHE MGO",
      "c TSA -PHRUc GUG RTAGS GYONe GYASc ANG KHANG GYONe GYASb SIGN YAR TSHESc MARnb LETTER KA",
      "c KHAc GAc GHAc NGAc CAc CHAc JA"]⟩,
   ⟨0xf49, ["aTIBETAN LETTER NYAc TTAc TTHAc DDAc DDHAc NNAc TAc THAc DAc DHAc NAc PAc PHAc BA",
      "c BHAc MAc TSAc TSHAc DZAc DZHAc WAc ZHAc ZAc -Ac YAc RAc LAc SHAc SSAc SAc HAc Ac KSSA",
      "c FIXED-FORM RAc KKAc RRA"]⟩,
   ⟨0xf71, ["aTIBETAN VOWEL SIGN AAd Id IId Ud UUd VOCALIC Re RRe Le LLd Ed EEd Od OO",
      "b SIGN RJES SU NGA ROc RNAM BCADb VOWEL SIGN REVERSED Ie IIb SIGN NYI ZLA NAA DA",
      "c SNA LDANb MARK HALANTAc PALUTAb SIGN LCI RTAGSc YANGnc LCE TSA CANc MCHUn",
      "c GRU CAN RGYINGSd MEDnc INVERTED MCHU CANb SUBJOINED SIGN LCE TSAnd MCHUnd INVERTEDo",
      "c LETTER KAd KHAd GAd GHAd NGAd CAd CHAd JA"]⟩,
   ⟨0xf99, ["aTIBETAN SUBJOINED LETTER NYAd TTAd TTHAd DDAd DDHAd NNAd TAd THAd DAd DHAd NAd PA",
      "d PHAd BAd BHAd MAd TSAd TSHAd DZAd DZHAd WAd ZHAd ZAd -Ad YAd RAd LAd SHAd SSAd SAd HA",
      "d Ad KSSAd FIXED-FORM WAf YAf RA"]⟩,
   ⟨0xfbe, ["aTIBETAN KU RU KHAe BZHI MIG CANb CANTILLATION SIGN HEAVY BEATd LIGHTnd CANG TE-U",
      "d SBUB -CHALb SYMBOL DRIL BUc RDO RJEc PADMA GDANc RDO RJE RGYA GRAMc PHUR PAc NOR BU",
      "e NYIS -KHYILe GSUMoe BZHIo"]⟩,
   ⟨0xfce, ["aTIBETAN SIGN RDEL NAG RDEL DKARe GSUMb MARK BSKA- SHOG GI MGO RGYANc MNYAM YIGp",
      "c NYIS TSHEGc INITIAL BRDA RNYING YIG MGO MDUN MAc CLOSING BRDA RNYING YIG MGO SGABn",
      "aRIGHT-FACING SVASTI SIGNaLEFTpaRIGHT-FACING SVASTI SIGN WITH DOTSaLEFTr",
      "aTIBETAN MARK LEADING MCHAN RTAGSc TRAILINGo"]⟩,
   ⟨0x1000, ["aMYANMAR LETTER KAc KHAc GAc GHAc NGAc CAc CHAc JAc JHAc NYAc NNYAc TTAc TTHAc DDA",
      "c DDHAc NNAc TAc THAc DAc DHAc NAc PAc PHAc BAc BHAc MAc YAc RAc LAc WAc SAc HAc LLAc A",
      "c SHANnc Ic IIc Uc UUc Ec MONnc Oc AUb VOWEL SIGN TALL AAdnd Id IId Ud UUd Ed AId MON II",
      "e Od E ABOVEb SIGN ANUSVARAc DOT BELOWc VISARGAc VIRAMAc ASATb CONSONANT SIGN MEDIAL YA",
      "e RAe WAe HAb LETTER GREAT SAb DIGIT ZEROc ONEc TWOc THREEc FOURc FIVEc SIXc SEVENc EIGHT",
      "c NINEb SIGN LITTLE SECTIONcnb SYMBOL LOCATIVEc COMPLETEDc AFOREMENTIONEDc GENITIVE",
      "b LETTER SHAc SSAc VOCALIC Rd RRd Ld LLb VOWEL SIGN VOCALIC Re RRe Le LLb LETTER MON NGA",
      "d JHAd BBAd BBEb CONSONANT SIGN MON MEDIAL NAf MAf LAb LETTER SGAW KAREN SHA",
      "b VOWEL SIGN SGAW KAREN EUb TONE MARK SGAW KAREN HATHIf KE PHO",
      "b LETTER WESTERN PWO KAREN THAf PWAb VOWEL SIGN WESTERN PWO KAREN EUg UE",
      "b SIGN WESTERN PWO KAREN TONE-1g-2g-3g-4g-5b LETTER EASTERN PWO KAREN NNAf YWAf GHWA",
      "b VOWEL SIGN GEBA KAREN Id KAYAH OEe Ue EEb LETTER SHAN KAd KHAd GAd CAd ZAd NYAd DAd NA",
      "d PHAd FAd BAd THAd HAb CONSONANT SIGN SHAN MEDIAL WAb VOWEL SIGN SHAN AAe Ef ABOVE",
      "e FINAL Yb SIGN SHAN TONE-2e-3e-5e-6d COUNCIL TONE-2f-3e EMPHATIC TONE",
      "b LETTER RUMAI PALAUNG FAb SIGN RUMAI PALAUNG TONE-5b SHAN DIGIT ZEROd ONEd TWOd THREE",
      "d FOURd FIVEd SIXd SEVENd EIGHTd NINEb SIGN KHAMTI TONE-1e-3b VOWEL SIGN AITON Ae AI",
      "b SYMBOL SHAN ONEd EXCLAMATIONaGEORGIAN CAPITAL LETTER ANd BANd GANd DONd ENd VINd ZEN",
      "d TANd INd KANd LASd MANd NARd ONd PARd ZHARd RAEd SANd TARd UNd PHARd KHARd GHANd QAR",
      "d SHINd CHINd CANd JILd CILd CHARd XANd JHANd HAEd HEd HIEd WEd HARd HOE"]⟩,
   ⟨0x10c7, ["aGEORGIAN CAPITAL LETTER YN"]⟩,
   ⟨0x10cd, ["aGEORGIAN CAPITAL LETTER AEN"]⟩,
   ⟨0x10d0, ["aGEORGIAN LETTER ANc BANc GANc DONc ENc VINc ZENc TANc INc KANc LASc MANc NARc ON",
      "c PARc ZHARc RAEc SANc TARc UNc PHARc KHARc GHANc QARc SHINc CHINc CANc JILc CILc CHAR",
      "c XANc JHANc HAEc HEc HIEc WEc HARc HOEc FIc YNc ELIFIc TURNED GANc AIN",
      "b PARAGRAPH SEPARATORaMODIFIER LETTER GEORGIAN NARaGEORGIAN LETTER AENc HARD SIGN",
      "c LABIALnaHANGUL CHOSEONG KIYEOKc SSANGKIYEOKc NIEUNc TIKEUTc SSANGTIKEUTc RIEULc MIEUM",
      "c PIEUPc SSANGPIEUPc SIOSc SSANGSIOSc IEUNGc CIEUCc SSANGCIEUCc CHIEUCHc KHIEUKHc THIEUTH",
      "c PHIEUPHc HIEUHc NIEUN-KIYEOKc SSANGNIEUNc NIEUN-TIKEUTd-PIEUPc TIKEUT-KIYEOK",
      "c RIEUL-NIEUNc SSANGRIEULc RIEUL-HIEUHc KAPYEOUNRIEULc MIEUM-PIEUPc KAPYEOUNMIEUM",
      "c PIEUP-KIYEOKd-NIEUNd-TIKEUTd-SIOSe-KIYEOKe-TIKEUTe-PIEUPd-SSANGSIOSd-SIOS-CIEUCdn",
      "d-CHIEUCHd-THIEUTHd-PHIEUPHc KAPYEOUNPIEUPc KAPYEOUNSSANGPIEUPc SIOS-KIYEOKd-NIEUN",
      "d-TIKEUTd-RIEULd-MIEUMd-PIEUPe-KIYEOKd-SSANGSIOSd-IEUNGd-CIEUCd-CHIEUCHd-KHIEUKHd-THIEUTH",
      "d-PHIEUPHd-HIEUHc CHITUEUMSIOSc CHITUEUMSSANGSIOSc CEONGCHIEUMSIOSc CEONGCHIEUMSSANGSIOS",
      "c PANSIOSc IEUNG-KIYEOKd-TIKEUTd-MIEUMd-PIEUPd-SIOSd-PANSIOSc SSANGIEUNGc IEUNG-CIEUC",
      "d-CHIEUCHd-THIEUTHd-PHIEUPHc YESIEUNGc CIEUC-IEUNGc CHITUEUMCIEUCc CHITUEUMSSANGCIEUC",
      "c CEONGCHIEUMCIEUCc CEONGCHIEUMSSANGCIEUCc CHIEUCH-KHIEUKHd-HIEUHc CHITUEUMCHIEUCH",
      "c CEONGCHIEUMCHIEUCHc PHIEUPH-PIEUPc KAPYEOUNPHIEUPHc SSANGHIEUHc YEORINHIEUH",
      "c KIYEOK-TIKEUTc NIEUN-SIOSd-CIEUCd-HIEUHc TIKEUT-RIEULc FILLERb JUNGSEONGnc Ac AEc YA",
      "c YAEc EOc Ec YEOc YEc Oc WAc WAEc OEc YOc Uc WEOc WEc WIc YUc EUc YIc Ic A-Od-Uc YA-O",
      "d-YOc EO-Od-Ud-EUc YEO-Od-Uc O-EOd-Ed-YEd-Od-Uc YO-YAd-YAEd-YEOd-Od-Ic U-Ad-AEd-EO-EUd-YE",
      "d-Uc YU-Ad-EOd-Ed-YEOd-YEd-Ud-Ic EU-Ud-EUc YI-Uc I-Ad-YAd-Od-Ud-EUd-ARAEAc ARAEAd-EOd-U",
      "d-Ic SSANGARAEAc A-EUc YA-Uc YEO-YAc Ond-YAEb JONGSEONG KIYEOKc SSANGKIYEOKc KIYEOK-SIOS",
      "c NIEUNd-CIEUCd-HIEUHc TIKEUTc RIEULd-KIYEOKd-MIEUMd-PIEUPd-SIOSd-THIEUTHd-PHIEUPHd-HIEUH",
      "c MIEUMc PIEUPd-SIOSc SIOSc SSANGSIOSc IEUNGc CIEUCc CHIEUCHc KHIEUKHc THIEUTHc PHIEUPH",
      "c HIEUHc KIYEOK-RIEULd-SIOS-KIYEOKc NIEUNnd-TIKEUTd-SIOSd-PANSIOSd-THIEUTHc TIKEUT-KIYEOK",
      "d-RIEULc RIEUL-KIYEOK-SIOSd-NIEUNd-TIKEUTe-HIEUHc SSANGRIEULc RIEUL-MIEUM-KIYEOKe-SIOS",
      "d-PIEUPne-HIEUHd-KAPYEOUNPIEUPd-SSANGSIOSd-PANSIOSd-KHIEUKHd-YEORINHIEUHc MIEUM-KIYEOK",
      "d-RIEULd-PIEUPd-SIOSd-SSANGSIOSd-PANSIOSd-CHIEUCHd-HIEUHc KAPYEOUNMIEUMc PIEUP-RIEUL",
      "d-PHIEUPHd-HIEUHc KAPYEOUNPIEUPc SIOS-KIYEOKd-TIKEUTd-RIEULd-PIEUPc PANSIOSc IEUNG-KIYEOK",
      "d-SSANGKIYEOKc SSANGIEUNGc IEUNG-KHIEUKHc YESIEUNGd-SIOSd-PANSIOSc PHIEUPH-PIEUP",
      "c KAPYEOUNPHIEUPHc HIEUH-NIEUNd-RIEULd-MIEUMd-PIEUPc YEORINHIEUHc KIYEOK-NIEUNd-PIEUP",
      "d-CHIEUCHd-KHIEUKHd-HIEUHc SSANGNIEUNaETHIOPIC SYLLABLE HAc HUc HIc HAAc HEEc HEc HOc HOA",
      "c LAc LUc LIc LAAc LEEc LEc LOc LWAc HHAc HHUc HHIc HHAAc HHEEc HHEc HHOc HHWAc MAc MU",
      "c MIc MAAc MEEc MEc MOc MWAc SZAc SZUc SZIc SZAAc SZEEc SZEc SZOc SZWAc RAc RUc RIc RAA",
      "c REEc REc ROc RWAc SAc SUc SIc SAAc SEEc SEc SOc SWAc SHAc SHUc SHIc SHAAc SHEEc SHE",
      "c SHOc SHWAc QAc QUc QIc QAAc QEEc QEc QOc QOAc QWA"]⟩,
   ⟨0x124a, ["aETHIOPIC SYLLABLE QWIc QWAAc QWEEc QWE"]⟩,
   ⟨0x1250, ["aETHIOPIC SYLLABLE QHAc QHUc QHIc QHAAc QHEEc QHEc QHO"]⟩,
   ⟨0x1258, ["aETHIOPIC SYLLABLE QHWA"]⟩,
   ⟨0x125a, ["aETHIOPIC SYLLABLE QHWIc QHWAAc QHWEEc QHWE"]⟩,
   ⟨0x1260, ["aETHIOPIC SYLLABLE BAc BUc BIc BAAc BEEc BEc BOc BWAc VAc VUc VIc VAAc VEEc VEc VO",
      "c VWAc TAc TUc TIc TAAc TEEc TEc TOc TWAc CAc CUc CIc CAAc CEEc CEc COc CWAc XAc XUc XI",
      "c XAAc XEEc XEc XOc XOAc XWA"]⟩,
   ⟨0x128a, ["aETHIOPIC SYLLABLE XWIc XWAAc XWEEc XWE"]⟩,
   ⟨0x1290, ["aETHIOPIC SYLLABLE NAc NUc NIc NAAc NEEc NEc NOc NWAc NYAc NYUc NYIc NYAAc NYEE",
      "c NYEc NYOc NYWAc GLOTTAL Ad Ud Id AAd EEd Ed Od WAc KAc KUc KIc KAAc KEEc KEc KOc KOA",
      "c KWA"]⟩,
   ⟨0x12b2, ["aETHIOPIC SYLLABLE KWIc KWAAc KWEEc KWE"]⟩,
   ⟨0x12b8, ["aETHIOPIC SYLLABLE KXAc KXUc KXIc KXAAc KXEEc KXEc KXO"]⟩,
   ⟨0x12c0, ["aETHIOPIC SYLLABLE KXWA"]⟩,
   ⟨0x12c2, ["aETHIOPIC SYLLABLE KXWIc KXWAAc KXWEEc KXWE"]⟩,
   ⟨0x12c8, ["aETHIOPIC SYLLABLE WAc WUc WIc WAAc WEEc WEc WOc WOAc PHARYNGEAL Ad Ud Id AAd EE",
      "d Ed O"]⟩,
   ⟨0x12d8, ["aETHIOPIC SYLLABLE ZAc ZUc ZIc ZAAc ZEEc ZEc ZOc ZWAc ZHAc ZHUc ZHIc ZHAAc ZHEE",
      "c ZHEc ZHOc ZHWAc YAc YUc YIc YAAc YEEc YEc YOc YOAc DAc DUc DIc DAAc DEEc DEc DOc DWA",
      "c DDAc DDUc DDIc DDAAc DDEEc DDEc DDOc DDWAc JAc JUc JIc JAAc JEEc JEc JOc JWAc GAc GU",
      "c GIc GAAc GEEc GEc GOc GOAc GWA"]⟩,
   ⟨0x1312, ["aETHIOPIC SYLLABLE GWIc GWAAc GWEEc GWE"]⟩,
   ⟨0x1318, ["aETHIOPIC SYLLABLE GGAc GGUc GGIc GGAAc GGEEc GGEc GGOc GGWAAc THAc THUc THIc THAA",
      "c THEEc THEc THOc THWAc CHAc CHUc CHIc CHAAc CHEEc CHEc CHOc CHWAc PHAc PHUc PHIc PHAA",
      "c PHEEc PHEc PHOc PHWAc TSAc TSUc TSIc TSAAc TSEEc TSEc TSOc TSWAc TZAc TZUc TZIc TZAA",
      "c TZEEc TZEc TZOc TZOAc FAc FUc FIc FAAc FEEc FEc FOc FWAc PAc PUc PIc PAAc PEEc PEc PO",
      "c PWAc RYAc MYAc FYA"]⟩,
   ⟨0x135d, ["aETHIOPIC COMBINING GEMINATION AND VOWEL LENGTH MARKcpc GEMINATIONnb SECTIONn",
      "b WORDSPACEb FULL STOPb COMMAb SEMICOLONb COLONb PREFACEnb QUESTION MARK",
      "b PARAGRAPH SEPARATORb DIGIT ONEc TWOc THREEc FOURc FIVEc SIXc SEVENc EIGHTc NINE",
      "b NUMBER TENc TWENTYc THIRTYc FORTYc FIFTYc SIXTYc SEVENTYc EIGHTYc NINETYc HUNDRED",
      "c TEN THOUSAND"]⟩,
   ⟨0x1380, ["aETHIOPIC SYLLABLE SEBATBEIT MWAc MWIc MWEEc MWEc SEBATBEIT BWAc BWIc BWEEc BWE",
      "c SEBATBEIT FWAc FWIc FWEEc FWEc SEBATBEIT PWAc PWIc PWEEc PWEb TONAL MARK YIZETd DERET",
      "d RIKRIKd SHORTnd DIFATd KENATd CHIRETd HIDETd DERET-HIDETd KURT"]⟩,
   ⟨0x13a0, ["aCHEROKEE LETTER Ac Ec Ic Oc Uc Vc GAc KAc GEc GIc GOc GUc GVc HAc HEc HIc HOc HU",
      "c HVc LAc LEc LIc LOc LUc LVc MAc MEc MIc MOc MUc NAc HNAc NAHc NEc NIc NOc NUc NVc QUA",
      "c QUEc QUIc QUOc QUUc QUVc SAc Sc SEc SIc SOc SUc SVc DAc TAc DEc TEc DIc TIc DOc DUc DV",
      "c DLAc TLAc TLEc TLIc TLOc TLUc TLVc TSAc TSEc TSIc TSOc TSUc TSVc WAc WEc WIc WOc WUc WV",
      "c YAc YEc YIc YOc YUc YVc MV"]⟩,
   ⟨0x13f8, ["aCHEROKEE SMALL LETTER YEd YId YOd YUd YVd MV"]⟩,
   ⟨0x1400, ["aCANADIAN SYLLABICS HYPHENc Ec AAIc Ic IIc Oc OOc Y-CREEnc CARRIER EEd Ic Ac AA",
      "c WEc WEST-CREEnc WIc WEST-CREEnc WIIc WEST-CREEnc WOc WEST-CREEnc WOOc WEST-CREEn",
      "c NASKAPInc WAc WEST-CREEnc WAAc WEST-CREEnc NASKAPInc AIc Y-CREE Wc GLOTTAL STOP",
      "c FINAL ACUTEd GRAVEd BOTTOM HALF RINGd TOPod RIGHTodnd DOUBLE ACUTE",
      "e SHORT VERTICAL STROKESd MIDDLE DOTd SHORT HORIZONTAL STROKEd PLUSd DOWN TACKc ENc IN",
      "c ONc ANc PEc PAAIc PIc PIIc POc POOc Y-CREEnc CARRIER HEEd HIc PAc PAAc PWEc WEST-CREEn",
      "c PWIc WEST-CREEnc PWIIc WEST-CREEnc PWOc WEST-CREEnc PWOOc WEST-CREEnc PWAc WEST-CREEn",
      "c PWAAc WEST-CREEnc Yoc Pc WEST-CREEnc CARRIER Hc TEc TAAIc TIc TIIc TOc TOOc Y-CREEn",
      "c CARRIER DEEd DIc TAc TAAc TWEc WEST-CREEnc TWIc WEST-CREEnc TWIIc WEST-CREEnc TWO",
      "c WEST-CREEnc TWOOc WEST-CREEnc TWAc WEST-CREEnc TWAAc WEST-CREEnc NASKAPInc Tc TTEc TTI",
      "c TTOc TTAc KEc KAAIc KIc KIIc KOc KOOc Y-CREEnc KAc KAAc KWEc WEST-CREEnc KWI",
      "c WEST-CREEnc KWIIc WEST-CREEnc KWOc WEST-CREEnc KWOOc WEST-CREEnc KWAc WEST-CREEnc KWAA",
      "c WEST-CREEnc NASKAPInc Kc KWc SOUTH-SLAVEY KEHe KIHe KOHe KAHc CEc CAAIc CIc CIIc CO",
      "c COOc Y-CREEnc CAc CAAc CWEc WEST-CREEnc CWIc WEST-CREEnc CWIIc WEST-CREEnc CWO",
      "c WEST-CREEnc CWOOc WEST-CREEnc CWAc WEST-CREEnc CWAAc WEST-CREEnc NASKAPInc Cc SAYISI TH",
      "c MEc MAAIc MIc MIIc MOc MOOc Y-CREEnc MAc MAAc MWEc WEST-CREEnc MWIc WEST-CREEnc MWII",
      "c WEST-CREEnc MWOc WEST-CREEnc MWOOc WEST-CREEnc MWAc WEST-CREEnc MWAAc WEST-CREEn",
      "c NASKAPInc Mc WEST-CREEnc MHc ATHAPASCAN Mc SAYISInc NEc NAAIc NIc NIIc NOc NOOc Y-CREEn",
      "c NAc NAAc NWEc WEST-CREEnc NWAc WEST-CREEnc NWAAc WEST-CREEnc NASKAPInc Nc CARRIER NG",
      "c NHc LEc LAAIc LIc LIIc LOc LOOc Y-CREEnc LAc LAAc LWEc WEST-CREEnc LWIc WEST-CREEn",
      "c LWIIc WEST-CREEnc LWOc WEST-CREEnc LWOOc WEST-CREEnc LWAc WEST-CREEnc LWAAc WEST-CREEn",
      "c Lc WEST-CREEnc MEDIALnc SEc SAAIc SIc SIIc SOc SOOc Y-CREEnc SAc SAAc SWEc WEST-CREEn",
      "c SWIc WEST-CREEnc SWIIc WEST-CREEnc SWOc WEST-CREEnc SWOOc WEST-CREEnc SWAc WEST-CREEn",
      "c SWAAc WEST-CREEnc NASKAPInc Sc ATHAPASCANnc SWc BLACKFOOT Sc MOOSE-CREE SKc NASKAPI SKW",
      "d S-Wd SPWAd STWAd SKWAd SCWAc SHEc SHIc SHIIc SHOc SHOOc SHAc SHAAc SHWEc WEST-CREEn",
      "c SHWIc WEST-CREEnc SHWIIc WEST-CREEnc SHWOc WEST-CREEnc SHWOOc WEST-CREEnc SHWA",
      "c WEST-CREEnc SHWAAc WEST-CREEnc SHc YEc YAAIc YIc YIIc YOc YOOc Y-CREEnc YAc YAAc YWE",
      "c WEST-CREEnc YWIc WEST-CREEnc YWIIc WEST-CREEnc YWOc WEST-CREEnc YWOOc WEST-CREEnc YWA",
      "c WEST-CREEnc YWAAc WEST-CREEnc NASKAPInc Yc BIBLE-CREEnc WESToc SAYISI YIc REc R-CREEn",
      "c WEST-CREE LEc RAAIc RIc RIIc ROc ROOc WEST-CREE LOc RAc RAAc WEST-CREE LAc RWAA",
      "c WEST-CREEnc Rc WEST-CREEnc MEDIALnc FEc FAAIc FIc FIIc FOc FOOc FAc FAAc FWAA",
      "c WEST-CREEnc Fc THEc N-CREEnc THIc N-CREEnc THIIc N-CREEnc THOc THOOc THAc THAAc THWAA",
      "c WEST-CREEnc THc TTHEc TTHIc TTHOc TTHAc TTHc TYEc TYIc TYOc TYAc NUNAVIK HEd HId HII",
      "d HOd HOOd HAd HAAd Hc NUNAVUTnc HKc QAAIc QIc QIIc QOc QOOc QAc QAAc Qc TLHEc TLHIc TLHO",
      "c TLHAc WEST-CREE REe RIe ROe RAc NGAAIc NGIc NGIIc NGOc NGOOc NGAc NGAAc NGc NNG",
      "c SAYISI SHEd SHId SHOd SHAc WOODS-CREE THEe THIe THOe THAe THc LHIc LHIIc LHOc LHOOc LHA",
      "c LHAAc LHc TH-CREE THEe THIe THIIe THOe THOOe THAe THAAe THc AIVILIK Bc BLACKFOOT Ed I",
      "d Od Ad WEd WId WOd WAd NEd NId NOd NAd KEd KId KOd KAc SAYISI HEd HId HOd HA",
      "c CARRIER GHUd GHOd GHEd GHEEd GHId GHAd RUd ROd REd REEd RId RAd WUd WOd WEd WEEd WId WA",
      "d HWUd HWOd HWEd HWEEd HWId HWAd THUd THOd THEd THEEd THId THAd TTUd TTOd TTEd TTEEd TTI",
      "d TTAd PUd POd PEd PEEd PId PAd Pd GUd GOd GEd GEEd GId GAd KHUd KHOd KHEd KHEEd KHId KHA",
      "d KKUd KKOd KKEd KKEEd KKId KKAd KKd NUd NOd NEd NEEd NId NAd MUd MOd MEd MEEd MId MAd YU",
      "d YOd YEd YEEd YId YAd JUc SAYISInc CARRIER JOd JEd JEEd JIc SAYISInc CARRIER JAd JJU",
      "d JJOd JJEd JJEEd JJId JJAd LUd LOd LEd LEEd LId LAd DLUd DLOd DLEd DLEEd DLId DLAd LHU",
      "d LHOd LHEd LHEEd LHId LHAd TLHUd TLHOd TLHEd TLHEEd TLHId TLHAd TLUd TLOd TLEd TLEEd TLI",
      "d TLAd ZUd ZOd ZEd ZEEd ZId ZAd Zd INITIALnd DZUd DZOd DZEd DZEEd DZId DZAd SUd SOd SE",
      "d SEEd SId SAd SHUd SHOd SHEd SHEEd SHId SHAd SHd TSUd TSOd TSEd TSEEd TSId TSAd CHUd CHO",
      "d CHEd CHEEd CHId CHAd TTSUd TTSOd TTSEd TTSEEd TTSId TTSAc CHI SIGNc FULL STOPc QAI",
      "c NGAIc NNGIc NNGIIc NNGOc NNGOOc NNGAc NNGAAc WOODS-CREE THWEEe THWIe THWIIe THWOe THWOO",
      "e THWAe THWAAe FINAL THc BLACKFOOT WaOGHAM SPACE MARKb LETTER BEITHc LUISc FEARNc SAIL",
      "c NIONc UATHc DAIRc TINNEc COLLc CEIRTc MUINc GORTc NGEADALc STRAIFc RUISc AILMc ONNc UR",
      "c EADHADHc IODHADHc EABHADHc ORc UILLEANNc IFINc EAMHANCHOLLc PEITHb FEATHER MARK",
      "b REVERSEDo"]⟩,
   ⟨0x16a0, ["aRUNIC LETTER FEHU FEOH FE Fc Vc URUZ UR Uc YRc Yc Wc THURISAZ THURS THORNc ETH",
      "c ANSUZ Ac OS Oc AC Ac AESCc LONG-BRANCH-OSS Oc SHORT-TWIGocnc OEc ONc RAIDO RAD REID R",
      "c KAUNAc CENc KAUN Kc Gc ENGc GEBO GYFU Gc GARc WUNJO WYNN Wc HAGLAZ Hc HAEGLn",
      "c LONG-BRANCH-HAGALLnc SHORT-TWIGoc NAUDIZ NYD NAUD Nc SHORT-TWIG-NAUDnc DOTTED-N",
      "c ISAZ IS ISS Ic Ec JERAN Jc GERc LONG-BRANCH-AR AEc SHORT-TWIG-AR Ac IWAZ EOH",
      "c PERTHO PEORTH Pc ALGIZ EOLHXc SOWILO Sc SIGEL LONG-BRANCH-SOLnc SHORT-TWIGoc Cc Z",
      "c TIWAZ TIR TYR Tc SHORT-TWIG-TYRnc Dc BERKANAN BEORC BJARKAN Bc SHORT-TWIG-BJARKANn",
      "c DOTTED-Pc OPENnc EHWAZ EH Ec MANNAZ MAN Mc LONG-BRANCH-MADRnc SHORT-TWIGo",
      "c LAUKAZ LAGU LOGR Lc DOTTED-Lc INGWAZc INGc DAGAZ DAEG Dc OTHALAN ETHEL Oc EARc IOR",
      "c CWEORTHc CALCc CEALCc STANc LONG-BRANCH-YRc SHORT-TWIGnc ICELANDICnc Qc X",
      "b SINGLE PUNCTUATIONb MULTIPLEnb CROSSnb ARLAUG SYMBOLb TVIMADURnb BELGTHORnb LETTER K",
      "c SHc OOc FRANKS CASKET OSe ISe EHe ACe AESC"]⟩,
   ⟨0x1700, ["aTAGALOG LETTER Ac Ic Uc KAc GAc NGAc TAc DAc NAc PAc BAc MAc YAc RAc LAc WAc SA",
      "c HAb VOWEL SIGN Id Ub SIGN VIRAMAc PAMUDPOD"]⟩,
   ⟨0x171f, ["aTAGALOG LETTER ARCHAIC RAaHANUNOO LETTER Ac Ic Uc KAc GAc NGAc TAc DAc NAc PAc BA",
      "c MAc YAc RAc LAc WAc SAc HAb VOWEL SIGN Id Ub SIGN PAMUDPOD",
      "aPHILIPPINE SINGLE PUNCTUATIONb DOUBLEn"]⟩,
   ⟨0x1740, ["aBUHID LETTER Ac Ic Uc KAc GAc NGAc TAc DAc NAc PAc BAc MAc YAc RAc LAc WAc SAc HA",
      "b VOWEL SIGN Id U"]⟩,
   ⟨0x1760, ["aTAGBANWA LETTER Ac Ic Uc KAc GAc NGAc TAc DAc NAc PAc BAc MAc YA"]⟩,
   ⟨0x176e, ["aTAGBANWA LETTER LAc WAc SA"]⟩,
   ⟨0x1772, ["aTAGBANWA VOWEL SIGN Id U"]⟩,
   ⟨0x1780, ["aKHMER LETTER KAc KHAc KOc KHOc NGOc CAc CHAc COc CHOc NYOc DAc TTHAc DOc TTHO",
      "c NNOc TAc THAc TOc THOc NOc BAc PHAc POc PHOc MOc YOc ROc LOc VOc SHAc SSOc SAc HAc LA",
      "c QAb INDEPENDENT VOWEL QAQd QAAd QId QIId QUd QUKd QUUd QUUVd RYd RYYd LYd LYYd QEd QAI",
      "d QOO TYPE ONEf TWOd QAUb VOWEL INHERENT AQd AAc SIGNnd Id IId Yd YYd Ud UUd UAd OEd YA",
      "d IEd Ed AEd AId OOd AUb SIGN NIKAHITc REAHMUKc YUUKALEAPINTUc MUUSIKATOANc TRIISAP",
      "c BANTOCc ROBATc TOANDAKHIATc KAKABATc AHSDAc SAMYOK SANNYAc VIRIAMc COENGc BATHAMASAT",
      "c KHANc BARIYOOSANc CAMNUC PII KUUHc LEK TOOc BEYYALc PHNAEK MUANc KOOMUUT",
      "b CURRENCY SYMBOL RIELb SIGN AVAKRAHASANYAc ATTHACAN"]⟩,
   ⟨0x17e0, ["aKHMER DIGIT ZEROc ONEc TWOc THREEc FOURc FIVEc SIXc SEVENc EIGHTc NINE"]⟩,
   ⟨0x17f0, ["aKHMER SYMBOL LEK ATTAK SONe MUOYe PIIe BEIe BUONe PRAMf-MUOYf-PIIf-BEIf-BUON"]⟩,
   ⟨0x1800, ["aMONGOLIAN BIRGAb ELLIPSISb COMMAb FULL STOPb COLONb FOUR DOTSb TODO SOFT HYPHEN",
      "b SIBE SYLLABLE BOUNDARY MARKERb MANCHU COMMAc FULL STOPb NIRUGU",
      "b FREE VARIATION SELECTOR ONEe TWOe THREEb VOWEL SEPARATORb FREE VARIATION SELECTOR FOUR",
      "b DIGIT ZEROc ONEc TWOc THREEc FOURc FIVEc SIXc SEVENc EIGHTc NINE"]⟩,
   ⟨0x1820, ["aMONGOLIAN LETTER Ac Ec Ic Oc Uc OEc UEc EEc NAc ANGc BAc PAc QAc GAc MAc LAc SA",
      "c SHAc TAc DAc CHAc JAc YAc RAc WAc FAc KAc KHAc TSAc ZAc HAAc ZRAc LHAc ZHIc CHI",
      "c TODO LONG VOWEL SIGNd Ed Id Od Ud OEd UEd ANGd BAd PAd QAd GAd MAd TAd DAd CHAd JAd TSA",
      "d YAd WAd KAd GAAd HAAd JIAd NIAd DZAc SIBE Ed Id IYd UEd Ud ANGd KAd GAd HAd PAd SHAd TA",
      "d DAd JAd FAd GAAd HAAd TSAd ZAd RAAd CHAd ZHAc MANCHU Id KAd RAd FAd ZHA",
      "c CHA WITH TWO DOTS"]⟩,
   ⟨0x1880, ["aMONGOLIAN LETTER ALI GALI ANUSVARA ONEe VISARGAne DAMARUe UBADAMAe INVERTEDn",
      "e BALUDAe THREEne Ae Ie KAe NGAe CAe TTAe TTHAe DDAe NNAe TAe DAe PAe PHAe SSAe ZHAe ZA",
      "e AHc TODO ALI GALI TAf ZHAc MANCHU ALI GALI GHAf NGAf CAf JHAf TTAf DDHAf TAf DHAf SSA",
      "f CYAf ZHAf ZAc ALI GALI HALF Uf YAc MANCHU ALI GALI BHAc ALI GALI DAGALGA",
      "c MANCHU ALI GALI LHA"]⟩,
   ⟨0x18b0, ["aCANADIAN SYLLABICS OYc AYc AAYc WAYc POYc PAYc PWOYc TAYc KAYc KWAYc MAYc NOY",
      "c NAYc LAYc SOYc SAYc SHOYc SHAYc SHWOYc YOYc YAYc RAYc NWIc OJIBWAYnc NWIIc OJIBWAYn",
      "c NWOc OJIBWAYnc NWOOc OJIBWAYnc RWEEc RWIc RWIIc RWOc RWOOc RWAc OJIBWAY Pd Td Kd Cd M",
      "d Nd Sd SHc EASTERN Wc WESTERNnc FINAL SMALL RINGd RAISED DOTc R-CREE RWEc WEST-CREE LOO",
      "e LAAc THWEc THWAc TTHWEc TTHOOc TTHAAc TLHWEc TLHOOc SAYISI SHWEd SHOOd HOOc CARRIER GWU",
      "d DENE GEEd GAAd GWAc SAYISI JUUc CARRIER JWAc BEAVER DENE Le Rc CARRIER DENTAL S"]⟩,
   ⟨0x1900, ["aLIMBU VOWEL-CARRIER LETTERb LETTER KAc KHAc GAc GHAc NGAc CAc CHAc JAc JHAc YAN",
      "c TAc THAc DAc DHAc NAc PAc PHAc BAc BHAc MAc YAc RAc LAc WAc SHAc SSAc SAc HAc GYANc TRA"]⟩,
   ⟨0x1920, ["aLIMBU VOWEL SIGN Ad Id Ud EEd AId OOd AUd Ed Ob SUBJOINED LETTER YAd RAd WA"]⟩,
   ⟨0x1930, ["aLIMBU SMALL LETTER KAd NGAd ANUSVARAd TAd NAd PAd MAd RAd LAb SIGN MUKPHRENG",
      "c KEMPHRENGc SA-I"]⟩,
   ⟨0x1940, ["aLIMBU SIGN LOO"]⟩,
   ⟨0x1944, ["aLIMBU EXCLAMATION MARKb QUESTIONnb DIGIT ZEROc ONEc TWOc THREEc FOURc FIVEc SIX",
      "c SEVENc EIGHTc NINEaTAI LE LETTER KAd XAd NGAd TSAd SAd YAd TAd THAd LAd PAd PHAd MAd FA",
      "d VAd HAd QAd KHAd TSHAd NAd Ad Id EEd EHd Ud OOd Od UEd Ed AUEd AI"]⟩,
   ⟨0x1970, ["aTAI LE LETTER TONE-2e-3e-4e-5e-6"]⟩,
   ⟨0x1980, ["aNEW TAI LUE LETTER HIGH QAe LOWne HIGH KAf XAf NGAe LOW KAf XAf NGAe HIGH TSAf SA",
      "f YAe LOW TSAf SAf YAe HIGH TAf THAf NAe LOW TAf THAf NAe HIGH PAf PHAf MAe LOW PAf PHA",
      "f MAe HIGH FAf VAf LAe LOW FAf VAf LAe HIGH HAf DAf BAe LOW HAf DAf BAe HIGH KVAf XVA",
      "e LOW KVAf XVAe HIGH SUAe LOWn"]⟩,
   ⟨0x19b0, ["aNEW TAI LUE VOWEL SIGN VOWEL SHORTENERf AAf IIf Uf UUf Ef AEf Of OAf UEf AYf AAY",
      "f UYf OYf OAYf UEYf IYd LETTER FINAL Vf NGf Nf Mf Kf Df Bd TONE MARK-1f-2"]⟩,
   ⟨0x19d0, ["aNEW TAI LUE DIGIT ZEROe ONEe TWOe THREEe FOURe FIVEe SIXe SEVENe EIGHTe NINE",
      "d THAM DIGIT ONE"]⟩,
   ⟨0x19de, ["aNEW TAI LUE SIGN LAEe LAEVaKHMER SYMBOL PATHAMASATc MUOY KOETc PIInc BEInc BUONn",
      "c PRAMnd-MUOYnd-PIInd-BEInd-BUONnc DAPnd-MUOYnd-PIInd-BEInd-BUONnd-PRAMnc TUTEYASAT",
      "c MUOY ROCc PIInc BEInc BUONnc PRAMnd-MUOYnd-PIInd-BEInd-BUONnc DAPnd-MUOYnd-PIInd-BEIn",
      "d-BUONnd-PRAMnaBUGINESE LETTER KAc GAc NGAc NGKAc PAc BAc MAc MPAc TAc DAc NAc NRAc CA",
      "c JAc NYAc NYCAc YAc RAc LAc VAc SAc Ac HAb VOWEL SIGN Id Ud Ed Od AE"]⟩,
   ⟨0x1a1e, ["aBUGINESE PALLAWAb END OF SECTIONaTAI THAM LETTER HIGH KAe KHAe KXAd LOW KAe KXA",
      "e KHAd NGAd HIGH CAe CHAd LOW CAe SAe CHAd NYAd RATAd HIGH RATHAd DAd LOW RATHAd RANA",
      "d HIGH TAe THAd LOW TAe THAd NAd BAd HIGH PAe PHAe FAd LOW PAe FAe PHAd MAd LOW YAd HIGHn",
      "d RAd RUEd LAd LUEd WAd HIGH SHAe SSAe SAe HAd LLAd Ad LOW HAd Id IId Ud UUd EEd OOd LAE",
      "d GREAT SAc CONSONANT SIGN MEDIAL RAf LAe LA TANG LAIc SIGN MAI KANGn",
      "c CONSONANT SIGN FINAL NGAe LOW PAe HIGH RATHA ORoe MAe BAe SA"]⟩,
   ⟨0x1a60, ["aTAI THAM SIGN SAKOTc VOWEL SIGN Ae MAI SATe AAe TALLne Ie IIe UEe UUEe Ue UUe O",
      "e OA BELOWe OYe Ee AEe OOe AIe THAMne OA ABOVEc SIGN MAI KANGd TONE-1e-2d KHUEN TONE-3f-4",
      "f-5d RA HAAMd MAI SAMd KHUEN-LUE KARAN"]⟩,
   ⟨0x1a7f, ["aTAI THAM COMBINING CRYPTOGRAMMIC DOTc HORA DIGIT ZEROe ONEe TWOe THREEe FOUR",
      "e FIVEe SIXe SEVENe EIGHTe NINE"]⟩,
   ⟨0x1a90, ["aTAI THAM THAM DIGIT ZEROe ONEe TWOe THREEe FOURe FIVEe SIXe SEVENe EIGHTe NINE"]⟩,
   ⟨0x1aa0, ["aTAI THAM SIGN WIANGd WIANGWAAKd SAWANd KEOWd HOYd DOKMAId REVERSED ROTATED RANA",
      "d MAI YAMOKd KAANd KAANKUUd SATKAANd SATKAANKUUd HANGd CAANG"]⟩,
   ⟨0x1ab0, ["aCOMBINING DOUBLED CIRCUMFLEX ACCENTb DIAERESIS-RINGb INFINITYb DOWNWARDS ARROW",
      "b TRIPLE DOTb X-X BELOWb WIGGLY LINEnb OPEN MARKnb DOUBLEpb LIGHT CENTRALIZATION STROKEn",
      "b STRONGpb PARENTHESES ABOVEb DOUBLEob PARENTHESES BELOWc OVERLAY",
      "b LATIN SMALL LETTER W BELOWe TURNEDob LEFT PARENTHESIS ABOVE LEFT",
      "b RIGHT PARENTHESIS ABOVE RIGHTb LEFT PARENTHESIS BELOW LEFT",
      "b RIGHT PARENTHESIS BELOW RIGHTb SQUARE BRACKETS ABOVEb NUMBER SIGNn",
      "b INVERTED DOUBLE ARCHnb PLUS SIGNnb DOUBLEpe BELOWb TRIPLE ACUTE ACCENT",
      "b LATIN SMALL LETTER INSULAR Gf Rf T"]⟩,
   ⟨0x1b00, ["aBALINESE SIGN ULU RICEMd CANDRAc CECEKc SURANGc BISAHb LETTER AKARAd TEDUNG",
      "c IKARAd TEDUNGc UKARAd TEDUNGc RA REPAe TEDUNGc LA LENGAe TEDUNGc EKARAc AIKARAc OKARA",
      "d TEDUNGc KAd MAHAPRANAc GAd GORAc NGAc CAd LACAc JAd JERAc NYAc TA LATIK",
      "d MURDA MAHAPRANAc DA MURDA ALPAPRANAe MAHAPRANAc NA RAMBATc TAd TAWAc DAd MADUc NAc PA",
      "d KAPALc BAd KEMBANGc MAc YAc RAc LAc WAc SA SAGAd SAPAdc HAb SIGN REREKAN",
      "b VOWEL SIGN TEDUNGd ULUe SARId SUKUe ILUTd RA REPAf TEDUNGd LA LENGAf TEDUNGd TALING",
      "e REPAe TEDUNGe REPAnd PEPETe TEDUNGb ADEG ADEGb LETTER KAF SASAKc KHOTnc TZIRnc EFnc VEn",
      "c ZALnc ASYURAnc ARCHAIC JNYA"]⟩,
   ⟨0x1b50, ["aBALINESE DIGIT ZEROc ONEc TWOc THREEc FOURc FIVEc SIXc SEVENc EIGHTc NINEb PANTI",
      "b PAMADAb WINDUb CARIK PAMUNGKAHc SIKIc PARERENb PAMENENGb MUSICAL SYMBOL DONGd DENG",
      "d DUNGd DANGe SURANGd DINGd DAENGd DEUNGd DAINGd DANG GEDEd COMBINING TEGEHe ENDEP",
      "e KEMPULe KEMPLIe JEGOGANe KEMPUL WITHne KEMPLIoe BENDEe GONGd RIGHT-HAND OPEN DUGg DAG",
      "f CLOSED TUKg TAKd LEFT-HAND OPEN PANGg PUNGf CLOSED PLAKg PLUKf OPEN PINGb PANTI LANTANG",
      "b PAMADAn"]⟩,
   ⟨0x1b80, ["aSUNDANESE SIGN PANYECEKc PANGLAYARc PANGWISADb LETTER Ac Ic Uc AEc Oc Ec EUc KA",
      "c QAc GAc NGAc CAc JAc ZAc NYAc TAc DAc NAc PAc FAc VAc BAc MAc YAc RAc LAc WAc SAc XA",
      "c HAb CONSONANT SIGN PAMINGKALd PANYAKRAd PANYIKUb VOWEL SIGN PANGHULUd PANYUKU",
      "d PANAELAENGd PANOLONGd PAMEPETd PANEULEUNGb SIGN PAMAAEHc VIRAMA",
      "b CONSONANT SIGN PASANGAN MAe WAb LETTER KHAc SYAb DIGIT ZEROc ONEc TWOc THREEc FOUR",
      "c FIVEc SIXc SEVENc EIGHTc NINEb AVAGRAHAb LETTER REUc LEUc BHAc FINAL Kd M",
      "aBATAK LETTER Ac SIMALUNGUNnc HAc SIMALUNGUNnc MANDAILINGnc BAc KAROnc PAc SIMALUNGUNn",
      "c NAc MANDAILINGnc WAc SIMALUNGUNnc PAKPAKnc GAc SIMALUNGUNnc JAc DAc RAc SIMALUNGUNnc MA",
      "c SIMALUNGUNnc SOUTHERN TAc NORTHERNnc SAc SIMALUNGUNnc MANDAILINGnc YAc SIMALUNGUNnc NGA",
      "c LAc SIMALUNGUNnc NYAc CAc NDAc MBAc Ic Ub SIGN TOMPIb VOWEL SIGN Ed PAKPAKnd EEd I",
      "d KAROnd Od KAROnd Ue FOR SIMALUNGUN SAb CONSONANT SIGN NGd Hb PANGOLATb PANONGONAN"]⟩,
   ⟨0x1bfc, ["aBATAK SYMBOL BINDU NA METEKd PINARBORASd JUDULd PANGOLATaLEPCHA LETTER KAc KLA",
      "c KHAc GAc GLAc NGAc CAc CHAc JAc NYAc TAc THAc DAc NAc PAc PLAc PHAc FAc FLAc BAc BLA",
      "c MAc MLAc TSAc TSHAc DZAc YAc RAc LAc HAc HLAc VAc SAc SHAc WAc Ab SUBJOINED LETTER YA",
      "d RAb VOWEL SIGN AAd Id Od OOd Ud UUd Eb CONSONANT SIGN Kd Md Ld Nd Pd Rd Td NYIN-DO",
      "d KANGb SIGN RANc NUKTA"]⟩,
   ⟨0x1c3b, ["aLEPCHA PUNCTUATION TA-ROLc NYET THYOOMoc CER-WAc TSHOOKodb DIGIT ZEROc ONEc TWO",
      "c THREEc FOURc FIVEc SIXc SEVENc EIGHTc NINE"]⟩,
   ⟨0x1c4d, ["aLEPCHA LETTER TTAc TTHAc DDAaOL CHIKI DIGIT ZEROd ONEd TWOd THREEd FOURd FIVE",
      "d SIXd SEVENd EIGHTd NINEc LETTER LAd ATd AGd ANGd ALd LAAd AAKd AAJd AAMd AAWd LId IS",
      "d IHd INYd IRd LUd UCd UDd UNNd UYd LEd EPd EDDd ENd ERRd LOd OTTd OBd OVd OHc MU TTUDDAG",
      "c GAAHLAA TTUDDAAGc MU-GAAHLAAnc RELAAc PHAARKAAc AHADc PUNCTUATION MUCAADd DOUBLEn",
      "aCYRILLIC SMALL LETTER ROUNDED VEd LONG-LEGGED DEd NARROW Od WIDE ESd TALL TE",
      "d THREE-LEGGEDnd TALL HARD SIGNe YATd UNBLENDED UK"]⟩,
   ⟨0x1c90, ["aGEORGIAN MTAVRULI CAPITAL LETTER ANe BANe GANe DONe ENe VINe ZENe TANe INe KAN",
      "e LASe MANe NARe ONe PARe ZHARe RAEe SANe TARe UNe PHARe KHARe GHANe QARe SHINe CHINe CAN",
      "e JILe CILe CHARe XANe JHANe HAEe HEe HIEe WEe HARe HOEe FIe YNe ELIFIe TURNED GANe AIN"]⟩,
   ⟨0x1cbd, ["aGEORGIAN MTAVRULI CAPITAL LETTER AENe HARD SIGNe LABIALn",
      "aSUNDANESE PUNCTUATION BINDU SURYAd PANGLONGd PURNAMAd CAKRAd LEU SATANGAd KAnd DAnd BAn"]⟩,
   ⟨0x1cd0, ["aVEDIC TONE KARSHANAc SHARAc PRENKHAb SIGN NIHSHVASAc YAJURVEDIC MIDLINE SVARITA",
      "b TONE YAJURVEDIC AGGRAVATED INDEPENDENTndod KATHAKAoc CANDRA BELOW",
      "c YAJURVEDIC KATHAKA INDEPENDENT SVARITA SCHROEDERc DOUBLE SVARITAc TRIPLEn",
      "c KATHAKA ANUDATTAc DOT BELOWc TWO DOTSnc THREEoc RIGVEDIC KASHMIRI INDEPENDENT SVARITA",
      "c ATHARVAVEDICob SIGN VISARGAnd UDATTAc REVERSEDoc VISARGA ANUDATTAc REVERSEDo",
      "c VISARGA UDATTA WITH TAILd ANUDATTAoc ANUSVARA ANTARGOMUKHAd BAHIRGOMUKHAd VAMAGOMUKHA",
      "e WITH TAILc TIRYAKc HEXIFORM LONG ANUSVARAcoc RTHANGoc ANUSVARA UBHAYATO MUKHA",
      "c ARDHAVISARGAc ROTATEDnb TONE CANDRA ABOVEb SIGN JIHVAMULIYAc UPADHMANIYAc ATIKRAMA",
      "b TONE RING ABOVEc DOUBLEob SIGN DOUBLE ANUSVARA ANTARGOMUKHA"]⟩]

end QueryDepth
