import RuleGate.Unicode.Ranges

/-! # Scripts

Every code point belongs to one script. The table lists the runs of equal script from the first
code point to the last, by the four-letter codes.
-/
namespace RuleGate.Unicode.Script

/-- The runs of equal script, in order of code points. -/
def runText : String := String.join [
  "41Zyyy1aLatn6Zyyy1aLatn2fZyyy1Latn0fZyyy1Latn5Zyyy17Latn1Zyyy1fLatn1Zyyy1c1Latn27Zyyy5Latn5Z",
  "yyy2Bopo14Zyyy70Zinh4Grek1Zyyy3Grek2Zzzz4Grek1Zyyy1Grek4Zzzz1Grek1Zyyy1Grek1Zyyy3Grek1Zzzz1G",
  "rek1Zzzz14Grek1Zzzz3fGrek0eCopt10Grek85Cyrl2Zinh0a9Cyrl1Zzzz26Armn2Zzzz32Armn2Zzzz3Armn1Zzzz",
  "37Hebr8Zzzz1bHebr4Zzzz6Hebr0bZzzz5Arab1Zyyy6Arab1Zyyy0eArab1Zyyy3Arab1Zyyy20Arab1Zyyy0aArab0",
  "bZinh1aArab1Zinh6cArab1Zyyy22Arab0eSyrc1Zzzz3cSyrc2Zzzz3Syrc30Arab32Thaa0eZzzz3bNkoo2Zzzz3Nk",
  "oo2eSamr2Zzzz0fSamr1Zzzz1cMand2Zzzz1Mand1Zzzz0bSyrc5Zzzz22Arab5Zzzz4bArab1Zyyy1dArab51Deva4Z",
  "inh0fDeva2Zyyy1aDeva4Beng1Zzzz8Beng2Zzzz2Beng2Zzzz16Beng1Zzzz7Beng1Zzzz1Beng3Zzzz4Beng2Zzzz9",
  "Beng2Zzzz2Beng2Zzzz4Beng8Zzzz1Beng4Zzzz2Beng1Zzzz5Beng2Zzzz19Beng2Zzzz3Guru1Zzzz6Guru4Zzzz2G",
  "uru2Zzzz16Guru1Zzzz7Guru1Zzzz2Guru1Zzzz2Guru1Zzzz2Guru2Zzzz1Guru1Zzzz5Guru4Zzzz2Guru2Zzzz3Gu",
  "ru3Zzzz1Guru7Zzzz4Guru1Zzzz1Guru7Zzzz11Guru0aZzzz3Gujr1Zzzz9Gujr1Zzzz3Gujr1Zzzz16Gujr1Zzzz7G",
  "ujr1Zzzz2Gujr1Zzzz5Gujr2Zzzz0aGujr1Zzzz3Gujr1Zzzz3Gujr2Zzzz1Gujr0fZzzz4Gujr2Zzzz0cGujr7Zzzz7",
  "Gujr1Zzzz3Orya1Zzzz8Orya2Zzzz2Orya2Zzzz16Orya1Zzzz7Orya1Zzzz2Orya1Zzzz5Orya2Zzzz9Orya2Zzzz2O",
  "rya2Zzzz3Orya7Zzzz3Orya4Zzzz2Orya1Zzzz5Orya2Zzzz12Orya0aZzzz2Taml1Zzzz6Taml3Zzzz3Taml1Zzzz4T",
  "aml3Zzzz2Taml1Zzzz1Taml1Zzzz2Taml3Zzzz2Taml3Zzzz3Taml3Zzzz0cTaml4Zzzz5Taml3Zzzz3Taml1Zzzz4Ta",
  "ml2Zzzz1Taml6Zzzz1Taml0eZzzz15Taml5Zzzz0dTelu1Zzzz3Telu1Zzzz17Telu1Zzzz10Telu2Zzzz9Telu1Zzzz",
  "3Telu1Zzzz4Telu7Zzzz2Telu1Zzzz3Telu1Zzzz2Telu2Zzzz4Telu2Zzzz0aTelu7Zzzz9Telu0dKnda1Zzzz3Knda",
  "1Zzzz17Knda1Zzzz0aKnda1Zzzz5Knda2Zzzz9Knda1Zzzz3Knda1Zzzz4Knda7Zzzz2Knda5Zzzz3Knda1Zzzz4Knda",
  "2Zzzz0aKnda1Zzzz3Knda0cZzzz0dMlym1Zzzz3Mlym1Zzzz33Mlym1Zzzz3Mlym1Zzzz6Mlym4Zzzz10Mlym2Zzzz1a",
  "Mlym1Zzzz3Sinh1Zzzz12Sinh3Zzzz18Sinh1Zzzz9Sinh1Zzzz1Sinh2Zzzz7Sinh3Zzzz1Sinh4Zzzz6Sinh1Zzzz1",
  "Sinh1Zzzz8Sinh6Zzzz0aSinh2Zzzz3Sinh0cZzzz3aThai4Zzzz1Zyyy1cThai25Zzzz2Laoo1Zzzz1Laoo1Zzzz5La",
  "oo1Zzzz18Laoo1Zzzz1Laoo1Zzzz17Laoo2Zzzz5Laoo1Zzzz1Laoo1Zzzz7Laoo1Zzzz0aLaoo2Zzzz4Laoo20Zzzz4",
  "8Tibt1Zzzz24Tibt4Zzzz27Tibt1Zzzz24Tibt1Zzzz0fTibt1Zzzz7Tibt4Zyyy2Tibt25Zzzz0a0Mymr26Geor1Zzz",
  "z1Geor5Zzzz1Geor2Zzzz2bGeor1Zyyy4Geor100Hang49Ethi1Zzzz4Ethi2Zzzz7Ethi1Zzzz1Ethi1Zzzz4Ethi2Z",
  "zzz29Ethi1Zzzz4Ethi2Zzzz21Ethi1Zzzz4Ethi2Zzzz7Ethi1Zzzz1Ethi1Zzzz4Ethi2Zzzz0fEthi1Zzzz39Ethi",
  "1Zzzz4Ethi2Zzzz43Ethi2Zzzz20Ethi3Zzzz1aEthi6Zzzz56Cher2Zzzz6Cher2Zzzz280Cans1dOgam3Zzzz4bRun",
  "r3Zyyy0bRunr7Zzzz16Tglg9Zzzz1Tglg15Hano2Zyyy9Zzzz14Buhd0cZzzz0dTagb1Zzzz3Tagb1Zzzz2Tagb0cZzz",
  "z5eKhmr2Zzzz0aKhmr6Zzzz0aKhmr6Zzzz2Mong2Zyyy1Mong1Zyyy14Mong6Zzzz59Mong7Zzzz2bMong5Zzzz46Can",
  "s0aZzzz1fLimb1Zzzz0cLimb4Zzzz0cLimb4Zzzz1Limb3Zzzz0cLimb1eTale2Zzzz5Tale0bZzzz2cTalu4Zzzz1aT",
  "alu6Zzzz0bTalu3Zzzz2Talu20Khmr1cBugi2Zzzz2Bugi3fLana1Zzzz1dLana2Zzzz0bLana6Zzzz0aLana6Zzzz0e",
  "Lana2Zzzz2eZinh2Zzzz0cZinh14Zzzz4dBali1Zzzz32Bali40Sund34Batk8Zzzz4Batk38Lepc3Zzzz0fLepc3Zzz",
  "z3Lepc30Olck0bCyrl5Zzzz2bGeor2Zzzz3Geor8Sund8Zzzz3Zinh1Zyyy0dZinh1Zyyy7Zinh4Zyyy1Zinh6Zyyy1Z",
  "inh3Zyyy2Zinh1Zyyy5Zzzz26Latn5Grek1Cyrl31Latn5Grek4Latn5Grek0dLatn1Cyrl46Latn1Grek40Zinh100L",
  "atn16Grek2Zzzz6Grek2Zzzz26Grek2Zzzz6Grek2Zzzz8Grek1Zzzz1Grek1Zzzz1Grek1Zzzz1Grek1Zzzz1fGrek2",
  "Zzzz35Grek1Zzzz0fGrek1Zzzz0eGrek2Zzzz6Grek1Zzzz13Grek2Zzzz3Grek1Zzzz9Grek1Zzzz0cZyyy2Zinh57Z",
  "yyy1Zzzz0bZyyy1Latn2Zzzz0bZyyy1Latn0fZyyy1Zzzz0dLatn3Zzzz22Zyyy0eZzzz21Zinh0fZzzz26Zyyy1Grek",
  "3Zyyy2Latn6Zyyy1Latn1bZyyy1Latn11Zyyy29Latn3Zyyy4Zzzz29aZyyy16Zzzz0bZyyy15Zzzz3a0Zyyy100Brai",
  "274Zyyy2Zzzz8aZyyy60Glag20Latn74Copt5Zzzz7Copt26Geor1Zzzz1Geor5Zzzz1Geor2Zzzz38Tfng7Zzzz2Tfn",
  "g0eZzzz1Tfng17Ethi9Zzzz7Ethi1Zzzz7Ethi1Zzzz7Ethi1Zzzz7Ethi1Zzzz7Ethi1Zzzz7Ethi1Zzzz7Ethi1Zzz",
  "z7Ethi1Zzzz20Cyrl5eZyyy22Zzzz1aHani1Zzzz59Hani0cZzzz0d6Hani1aZzzz15Zyyy1Hani1Zyyy1Hani19Zyyy",
  "9Hani4Zinh2Hang8Zyyy4Hani4Zyyy1Zzzz56Hira2Zzzz2Zinh2Zyyy3Hira1Zyyy5aKana2Zyyy3Kana5Zzzz2bBop",
  "o1Zzzz5eHang1Zzzz10Zyyy20Bopo26Zyyy9Zzzz1Zyyy10Kana1fHang1Zzzz40Zyyy1fHang51Zyyy2fKana1Zyyy5",
  "8Kana0a8Zyyy19c0Hani40Zyyy5200Hani48dYiii3Zzzz37Yiii9Zzzz30Lisu12cVaii14Zzzz60Cyrl58Bamu8Zzz",
  "z22Zyyy66Latn3Zyyy52Latn14Zzzz0fLatn2dSylo3Zzzz0aZyyy6Zzzz38Phag8Zzzz46Saur8Zzzz0cSaur6Zzzz2",
  "0Deva2eKali1Zyyy1Kali24Rjng0bZzzz1Rjng1dHang3Zzzz4eJava1Zzzz1Zyyy0aJava4Zzzz2Java1fMymr1Zzzz",
  "37Cham9Zzzz0eCham2Zzzz0aCham2Zzzz4Cham20Mymr43Tavt18Zzzz5Tavt17Mtei0aZzzz6Ethi2Zzzz6Ethi2Zzz",
  "z6Ethi9Zzzz7Ethi1Zzzz7Ethi1Zzzz2bLatn1Zyyy9Latn1Grek4Latn2Zyyy4Zzzz50Cher2eMtei2Zzzz0aMtei6Z",
  "zzz2ba4Hang0cZzzz17Hang4Zzzz31Hang2104Zzzz16eHani2Zzzz6aHani26Zzzz7Latn0cZzzz5Armn5Zzzz1aHeb",
  "r1Zzzz5Hebr1Zzzz1Hebr1Zzzz2Hebr1Zzzz2Hebr1Zzzz0aHebr1eeArab2Zyyy90Arab20Zzzz10Arab10Zinh0aZy",
  "yy6Zzzz0eZinh2Cyrl23Zyyy1Zzzz13Zyyy1Zzzz4Zyyy4Zzzz5Arab1Zzzz87Arab2Zzzz1Zyyy1Zzzz20Zyyy1aLat",
  "n6Zyyy1aLatn0bZyyy0aKana1Zyyy2dKana2Zyyy1fHang3Zzzz6Hang2Zzzz6Hang2Zzzz6Hang2Zzzz3Hang3Zzzz7",
  "Zyyy1Zzzz7Zyyy0aZzzz5Zyyy2Zzzz0cLinb1Zzzz1aLinb1Zzzz13Linb1Zzzz2Linb1Zzzz0fLinb2Zzzz0eLinb22",
  "Zzzz7bLinb5Zzzz3Zyyy4Zzzz2dZyyy3Zzzz9Zyyy4fGrek1Zzzz0dZyyy3Zzzz1Grek2fZzzz2dZyyy1Zinh82Zzzz1",
  "dLyci3Zzzz31Cari0fZzzz1Zinh1bZyyy4Zzzz24Ital9Zzzz3Ital1bGoth5Zzzz2bPerm5Zzzz1eUgar1Zzzz1Ugar",
  "24Xpeo4Zzzz0eXpeo2aZzzz50Dsrt30Shaw1eOsma2Zzzz0aOsma6Zzzz24Osge4Zzzz24Osge4Zzzz28Elba8Zzzz34",
  "Aghb0bZzzz1Aghb0bVith1Zzzz0fVith1Zzzz7Vith1Zzzz2Vith1Zzzz0bVith1Zzzz0fVith1Zzzz7Vith1Zzzz2Vi",
  "th3Zzzz34Todr0cZzzz137Lina9Zzzz16Lina0aZzzz8Lina18Zzzz6Latn1Zzzz2aLatn1Zzzz9Latn45Zzzz6Cprt2",
  "Zzzz1Cprt1Zzzz2cCprt1Zzzz2Cprt3Zzzz1Cprt2Zzzz1Cprt16Armi1Zzzz9Armi20Palm1fNbat8Zzzz9Nbat30Zz",
  "zz13Hatr1Zzzz2Hatr5Zzzz5Hatr1cPhnx3Zzzz1Phnx1aLydi5Zzzz1Lydi40Zzzz20Mero18Merc4Zzzz14Merc2Zz",
  "zz2eMerc4Khar1Zzzz2Khar5Zzzz8Khar1Zzzz3Khar1Zzzz1dKhar2Zzzz3Khar4Zzzz0aKhar7Zzzz9Khar7Zzzz20",
  "Sarb20Narb20Zzzz27Mani4Zzzz0cMani9Zzzz36Avst3Zzzz7Avst16Prti2Zzzz8Prti13Phli5Zzzz8Phli12Phlp",
  "7Zzzz4Phlp0cZzzz7Phlp50Zzzz49Orkh37Zzzz33Hung0dZzzz33Hung7Zzzz6Hung28Rohg8Zzzz0aRohg6Zzzz26G",
  "ara3Zzzz1dGara8Zzzz2Gara0d0Zzzz1fArab1Zzzz2aYezi1Zzzz3Yezi2Zzzz2Yezi10Zzzz6Arab8Zzzz9Arab21Z",
  "zzz6Arab28Sogo8Zzzz2aSogd16Zzzz1aOugr26Zzzz1cChrs14Zzzz17Elym9Zzzz4eBrah4Zzzz24Brah9Zzzz1Bra",
  "h43Kthi0aZzzz1Kthi2Zzzz19Sora7Zzzz0aSora6Zzzz35Cakm1Zzzz12Cakm8Zzzz27Mahj9Zzzz60Shrd1Zzzz14S",
  "inh0bZzzz12Khoj1Zzzz2fKhoj3eZzzz7Mult1Zzzz1Mult1Zzzz4Mult1Zzzz0fMult1Zzzz0bMult6Zzzz3bSind5Z",
  "zzz0aSind6Zzzz4Gran1Zzzz8Gran2Zzzz2Gran2Zzzz16Gran1Zzzz7Gran1Zzzz2Gran1Zzzz5Gran1Zzzz1Zinh9G",
  "ran2Zzzz2Gran2Zzzz3Gran2Zzzz1Gran6Zzzz1Gran5Zzzz7Gran2Zzzz7Gran3Zzzz5Gran0bZzzz0aTutg1Zzzz1T",
  "utg2Zzzz1Tutg1Zzzz26Tutg1Zzzz0aTutg1Zzzz1Tutg2Zzzz1Tutg1Zzzz4Tutg1Zzzz0aTutg1Zzzz2Tutg8Zzzz2",
  "Tutg1dZzzz5cNewa1Zzzz5Newa1eZzzz48Tirh8Zzzz0aTirh0a6Zzzz36Sidd2Zzzz26Sidd22Zzzz45Modi0bZzzz0",
  "aModi6Zzzz0dMong13Zzzz3aTakr6Zzzz0aTakr6Zzzz14Mymr1cZzzz1bAhom2Zzzz0fAhom4Zzzz17Ahom0b9Zzzz3",
  "cDogr64Zzzz53Wara0cZzzz1Wara7Diak2Zzzz1Diak2Zzzz8Diak1Zzzz2Diak1Zzzz1eDiak1Zzzz2Diak2Zzzz0cD",
  "iak9Zzzz0aDiak46Zzzz8Nand2Zzzz2eNand2Zzzz0bNand1bZzzz48Zanb8Zzzz53Soyo0dZzzz10Cans39Pauc7Zzz",
  "z0aDeva56Zzzz8Shrd58Zzzz22Sunu0eZzzz0aSunu6Zzzz9Bhks1Zzzz2dBhks1Zzzz0eBhks0aZzzz1dBhks3Zzzz2",
  "0Marc2Zzzz16Marc1Zzzz0eMarc49Zzzz7Gonm1Zzzz2Gonm1Zzzz2cGonm3Zzzz1Gonm1Zzzz2Gonm1Zzzz9Gonm8Zz",
  "zz0aGonm6Zzzz6Gong1Zzzz2Gong1Zzzz25Gong1Zzzz2Gong1Zzzz6Gong7Zzzz0aGong136Zzzz19Maka7Zzzz11Ka",
  "wi1Zzzz29Kawi3Zzzz1dKawi55Zzzz1Lisu0fZzzz32Taml0dZzzz1Taml39aXsux66Zzzz6fXsux1Zzzz5Xsux0bZzz",
  "z0c4Xsux0a4cZzzz63Cpmn0dZzzz456Egyp0aZzzz0f9bEgyp5Zzzz247Hluw1ab9Zzzz3aGukh6c6Zzzz239Bamu7Zz",
  "zz1fMroo1Zzzz0aMroo4Zzzz2Mroo4fTnsa1Zzzz0aTnsa6Zzzz1eBass2Zzzz6Bass0aZzzz46Hmng0aZzzz0aHmng1",
  "Zzzz7Hmng1Zzzz15Hmng5Zzzz13Hmng1b0Zzzz3aKrai0c6Zzzz5bMedf65Zzzz4bPlrd4Zzzz39Plrd7Zzzz11Plrd4",
  "0Zzzz1Tang1Nshu2Hani1Kits0bZzzz7Hani9Zzzz1b00Tang1d6Kits29Zzzz1Kits1fTang61Zzzz73Tang21fdZzz",
  "z4Kana1Zzzz7Kana1Zzzz2Kana1Zzzz1Kana11fHira3Kana0fZzzz1Hira1dZzzz3Hira2Zzzz1Kana0eZzzz4Kana8",
  "Zzzz18cNshu904Zzzz6bDupl5Zzzz0dDupl3Zzzz9Dupl7Zzzz0aDupl2Zzzz4Dupl4Zyyy0f5cZzzz0fdZyyy3Zzzz1",
  "b4Zyyy6Zzzz17Zyyy0fZzzz11Zyyy0fZzzz2eZinh2Zzzz17Zinh9Zzzz74Zyyy3cZzzz0f6Zyyy0aZzzz27Zyyy2Zzz",
  "z3eZyyy3Zinh11Zyyy8Zinh2Zyyy7Zinh1eZyyy4Zinh3dZyyy15Zzzz46Grek7aZzzz14Zyyy0cZzzz14Zyyy0cZzzz",
  "57Zyyy9Zzzz19Zyyy87Zzzz55Zyyy1Zzzz47Zyyy1Zzzz2Zyyy2Zzzz1Zyyy2Zzzz2Zyyy2Zzzz4Zyyy1Zzzz0cZyyy1",
  "Zzzz1Zyyy1Zzzz7Zyyy1Zzzz41Zyyy1Zzzz4Zyyy2Zzzz8Zyyy1Zzzz7Zyyy1Zzzz1cZyyy1Zzzz4Zyyy1Zzzz5Zyyy1",
  "Zzzz1Zyyy3Zzzz7Zyyy1Zzzz154Zyyy2Zzzz124Zyyy2Zzzz32Zyyy28cSgnw0fZzzz5Sgnw1Zzzz0fSgnw450Zzzz1f",
  "Latn6Zzzz6Latn0d5Zzzz7Glag1Zzzz11Glag2Zzzz7Glag1Zzzz2Glag1Zzzz5Glag5Zzzz3eCyrl21Zzzz1Cyrl70Z",
  "zzz2dHmnp3Zzzz0eHmnp2Zzzz0aHmnp4Zzzz2Hmnp140Zzzz1fToto11Zzzz3aWcho5Zzzz1Wcho1d0Zzzz2aNagm0d6",
  "Zzzz2bOnao4Zzzz1Onao1e0Zzzz7Ethi1Zzzz4Ethi1Zzzz2Ethi1Zzzz0fEthi1Zzzz0c5Mend2Zzzz10Mend29Zzzz",
  "4cAdlm4Zzzz0aAdlm4Zzzz2Adlm311Zzzz44Zyyy4cZzzz3dZyyy0c2Zzzz4Arab1Zzzz1bArab1Zzzz2Arab1Zzzz1A",
  "rab2Zzzz1Arab1Zzzz0aArab1Zzzz4Arab1Zzzz1Arab1Zzzz1Arab6Zzzz1Arab4Zzzz1Arab1Zzzz1Arab1Zzzz1Ar",
  "ab1Zzzz3Arab1Zzzz2Arab1Zzzz1Arab2Zzzz1Arab1Zzzz1Arab1Zzzz1Arab1Zzzz1Arab1Zzzz1Arab1Zzzz2Arab",
  "1Zzzz1Arab2Zzzz4Arab1Zzzz7Arab1Zzzz4Arab1Zzzz4Arab1Zzzz1Arab1Zzzz0aArab1Zzzz11Arab5Zzzz3Arab",
  "1Zzzz5Arab1Zzzz11Arab34Zzzz2Arab10eZzzz2cZyyy4Zzzz64Zyyy0cZzzz0fZyyy2Zzzz0fZyyy1Zzzz0fZyyy1Z",
  "zzz25Zyyy0aZzzz0aeZyyy38Zzzz1aZyyy1Hira2Zyyy0dZzzz2cZyyy4Zzzz9Zyyy7Zzzz2Zyyy0eZzzz6Zyyy9aZzz",
  "z3d9Zyyy3Zzzz11Zyyy3Zzzz0dZyyy3Zzzz0daZyyy6Zzzz0cZyyy4Zzzz1Zyyy0fZzzz0cZyyy4Zzzz38Zyyy8Zzzz0",
  "aZyyy6Zzzz28Zyyy8Zzzz1eZyyy2Zzzz0cZyyy4Zzzz2Zyyy0eZzzz9Zyyy27Zzzz158Zyyy8Zzzz0eZyyy2Zzzz0dZy",
  "yy3Zzzz0bZyyy3Zzzz39Zyyy1Zzzz1Zyyy4Zzzz10Zyyy2Zzzz0cZyyy4Zzzz0aZyyy7Zzzz93Zyyy1Zzzz67Zyyy405",
  "Zzzz0a6e0Hani20Zzzz111eHani2Zzzz168eHani2Zzzz1d31Hani0fZzzz26eHani9a2Zzzz21eHani5e2Zzzz134bH",
  "ani5Zzzz212aHani0acb87Zzzz1Zyyy1eZzzz60Zyyy80Zzzz0f0Zinh2fe10Zzzz"]

/-- The names of the scripts with their codes. -/
def nameText : String := String.join [
  "Adlam:Adlm Ahom:Ahom Anatolian_Hieroglyphs:Hluw Arabic:Arab Armenian:Armn Avestan:Avst Balin",
  "ese:Bali Bamum:Bamu Bassa_Vah:Bass Batak:Batk Bengali:Beng Bhaiksuki:Bhks Bopomofo:Bopo Brah",
  "mi:Brah Braille:Brai Buginese:Bugi Buhid:Buhd Canadian_Aboriginal:Cans Carian:Cari Caucasian",
  "_Albanian:Aghb Chakma:Cakm Cham:Cham Cherokee:Cher Chorasmian:Chrs Common:Zyyy Coptic:Copt C",
  "uneiform:Xsux Cypriot:Cprt Cypro_Minoan:Cpmn Cyrillic:Cyrl Deseret:Dsrt Devanagari:Deva Dive",
  "s_Akuru:Diak Dogra:Dogr Duployan:Dupl Egyptian_Hieroglyphs:Egyp Elbasan:Elba Elymaic:Elym Et",
  "hiopic:Ethi Garay:Gara Georgian:Geor Glagolitic:Glag Gothic:Goth Grantha:Gran Greek:Grek Guj",
  "arati:Gujr Gunjala_Gondi:Gong Gurmukhi:Guru Gurung_Khema:Gukh Han:Hani Hangul:Hang Hanifi_Ro",
  "hingya:Rohg Hanunoo:Hano Hatran:Hatr Hebrew:Hebr Hiragana:Hira Imperial_Aramaic:Armi Inherit",
  "ed:Zinh Inscriptional_Pahlavi:Phli Inscriptional_Parthian:Prti Javanese:Java Kaithi:Kthi Kan",
  "nada:Knda Katakana:Kana Kawi:Kawi Kayah_Li:Kali Kharoshthi:Khar Khitan_Small_Script:Kits Khm",
  "er:Khmr Khojki:Khoj Khudawadi:Sind Kirat_Rai:Krai Lao:Laoo Latin:Latn Lepcha:Lepc Limbu:Limb ",
  "Linear_A:Lina Linear_B:Linb Lisu:Lisu Lycian:Lyci Lydian:Lydi Mahajani:Mahj Makasar:Maka Ma",
  "layalam:Mlym Mandaic:Mand Manichaean:Mani Marchen:Marc Masaram_Gondi:Gonm Medefaidrin:Medf M",
  "eetei_Mayek:Mtei Mende_Kikakui:Mend Meroitic_Cursive:Merc Meroitic_Hieroglyphs:Mero Miao:Plr",
  "d Modi:Modi Mongolian:Mong Mro:Mroo Multani:Mult Myanmar:Mymr Nabataean:Nbat Nag_Mundari:Nag",
  "m Nandinagari:Nand New_Tai_Lue:Talu Newa:Newa Nko:Nkoo Nushu:Nshu Nyiakeng_Puachue_Hmong:Hmn",
  "p Ogham:Ogam Ol_Chiki:Olck Ol_Onal:Onao Old_Hungarian:Hung Old_Italic:Ital Old_North_Arabian",
  ":Narb Old_Permic:Perm Old_Persian:Xpeo Old_Sogdian:Sogo Old_South_Arabian:Sarb Old_Turkic:Or",
  "kh Old_Uyghur:Ougr Oriya:Orya Osage:Osge Osmanya:Osma Pahawh_Hmong:Hmng Palmyrene:Palm Pau_C",
  "in_Hau:Pauc Phags_Pa:Phag Phoenician:Phnx Psalter_Pahlavi:Phlp Rejang:Rjng Runic:Runr Samari",
  "tan:Samr Saurashtra:Saur Sharada:Shrd Shavian:Shaw Siddham:Sidd SignWriting:Sgnw Sinhala:Sin",
  "h Sogdian:Sogd Sora_Sompeng:Sora Soyombo:Soyo Sundanese:Sund Sunuwar:Sunu Syloti_Nagri:Sylo ",
  "Syriac:Syrc Tagalog:Tglg Tagbanwa:Tagb Tai_Le:Tale Tai_Tham:Lana Tai_Viet:Tavt Takri:Takr Ta",
  "mil:Taml Tangsa:Tnsa Tangut:Tang Telugu:Telu Thaana:Thaa Thai:Thai Tibetan:Tibt Tifinagh:Tfn",
  "g Tirhuta:Tirh Todhri:Todr Toto:Toto Tulu_Tigalari:Tutg Ugaritic:Ugar Vai:Vaii Vithkuqi:Vith ",
  "Wancho:Wcho Warang_Citi:Wara Yezidi:Yezi Yi:Yiii Zanabazar_Square:Zanb"]

def runs : List (Nat × String) := readRuns runText

def codes : List (String × String) :=
  (nameText.splitOn " ").filterMap fun entry =>
    match entry.splitOn ":" with
    | [name, code] => some (name, code)
    | _ => none

/-- The code points of the script with a given code. -/
def ranges (code : String) : Ranges :=
  let rec go : Nat → List (Nat × String) → Ranges → Ranges
    | _, [], acc => acc.reverse
    | at_, (n, name) :: r, acc =>
      go (at_ + n) r (if name == code then (at_, at_ + n - 1) :: acc else acc)
  Ranges.ofList (go 0 runs [])

/-- Characters that are used in scripts besides their own, with the codes of these. -/
def extensionText : String := String.join [
  "b7=Avst,Cari,Copt,Dupl,Elba,Geor,Glag,Gong,Goth,Grek,Hani,Latn,Lydi,Mahj,Perm,Shaw ",
  "2bc=Beng,Cyrl,Deva,Latn,Lisu,Thai,Toto 2c7,2c9-2cb,2d9=Bopo,Latn 2cd=Latn,Lisu 2d7=Latn,Thai ",
  "300=Cher,Copt,Cyrl,Grek,Latn,Perm,Sunu,Tale 301=Cher,Cyrl,Grek,Latn,Osge,Sunu,Tale,Todr ",
  "302=Cher,Cyrl,Latn 303=Glag,Latn,Sunu,Syrc,Thai ",
  "304=Aghb,Cher,Copt,Cyrl,Goth,Grek,Latn,Osge,Syrc,Todr 305=Copt,Elba,Glag,Goth,Kana,Latn ",
  "306=Cyrl,Grek,Latn,Perm 307=Copt,Dupl,Hebr,Latn,Perm,Syrc,Tale,Todr ",
  "308=Armn,Cyrl,Dupl,Goth,Grek,Hebr,Latn,Perm,Syrc,Tale 309,363-36f=Latn 30a=Dupl,Latn,Syrc ",
  "30b=Cher,Cyrl,Latn,Osge 30c=Cher,Latn,Tale 30d,310=Latn,Sunu 30e=Ethi,Latn 311=Cyrl,Latn,Todr ",
  "313=Grek,Latn,Perm,Todr 323=Cher,Dupl,Kana,Latn,Syrc 324=Cher,Dupl,Latn,Syrc ",
  "325,32e=Latn,Syrc 32d=Latn,Sunu,Syrc 330=Cher,Latn,Syrc ",
  "331=Aghb,Cher,Goth,Latn,Sunu,Syrc,Thai 342,345,1dc0-1dc1=Grek 358=Latn,Osge ",
  "35e=Aghb,Latn,Todr 374=Copt,Grek 375=Copt 483=Perm 484,487,a66f=Glag 485-486=Cyrl,Latn ",
  "589=Geor,Glag 60c,61b=Arab,Gara,Nkoo,Rohg,Syrc,Thaa,Yezi 61c=Syrc,Thaa ",
  "61f=Adlm,Arab,Gara,Nkoo,Rohg,Syrc,Thaa,Yezi 640=Adlm,Arab,Mand,Mani,Ougr,Phlp,Rohg,Sogd,Syrc ",
  "64b-655,670=Arab,Syrc 660-669=Thaa,Yezi 6d4=Rohg ",
  "951=Beng,Deva,Gran,Gujr,Guru,Knda,Latn,Mlym,Nand,Newa,Orya,Shrd,Taml,Telu,Tirh ",
  "952=Beng,Deva,Gran,Gujr,Guru,Knda,Latn,Mlym,Newa,Orya,Taml,Telu,Tirh ",
  "964=Beng,Deva,Dogr,Gong,Gonm,Gran,Gujr,Guru,Knda,Mahj,Mlym,Nand,Onao,Orya,Sind,Sylo,Takr ",
  "964=Taml,Telu,Tirh ",
  "965=Beng,Deva,Dogr,Gong,Gonm,Gran,Gujr,Gukh,Guru,Knda,Limb,Mahj,Mlym,Nand,Onao,Orya,Sind ",
  "965=Sylo,Takr,Taml,Telu,Tirh 966-96f=Dogr,Kthi,Mahj 9e6-9ef=Cakm,Sylo a66-a6f=Mult ",
  "ae6-aef=Khoj be6-bf3,11fd0-11fd1,11fd3=Gran ce6-cef=Nand,Tutg 1040-1049=Cakm,Tale ",
  "10fb=Geor,Glag,Latn 16eb-16ed=Runr 1735-1736=Buhd,Hano,Tagb,Tglg 1802-1803,1805=Mong,Phag ",
  "1cd0,1cd2=Beng,Deva,Gran,Knda 1cd1,1cd4,1cdb,1cde-1cdf,1ce3-1ce8,1cec,1cee-1cf1=Deva ",
  "1cd3=Deva,Gran,Knda 1cd5=Beng,Deva,Newa,Telu,Tirh 1cd6=Beng,Deva,Telu 1cd7=Deva,Newa,Shrd ",
  "1cd8=Beng,Deva,Newa,Telu 1cd9,1cdc-1cdd,1ce0=Deva,Shrd 1cda=Deva,Knda,Mlym,Orya,Taml,Telu ",
  "1ce1,1cf5-1cf6=Beng,Deva 1ce2=Deva,Newa,Tirh 1ce9=Deva,Nand,Newa 1cea=Beng,Deva,Shrd ",
  "1ceb=Deva,Newa 1ced=Beng,Deva,Newa,Shrd ",
  "1cf2=Beng,Deva,Gran,Knda,Mlym,Nand,Orya,Telu,Tirh,Tutg 1cf3,1cf8-1cf9=Deva,Gran ",
  "1cf4=Deva,Gran,Knda,Tutg 1cf7=Beng 1cfa=Nand 1df8=Cyrl,Latn,Syrc 1dfa=Syrc ",
  "202f=Latn,Mong,Phag 204f=Adlm,Arab 205a=Cari,Geor,Glag,Hung,Lyci 205d=Cari,Grek,Hung,Mero ",
  "20f0=Deva,Gran,Latn 2e17=Copt,Latn 2e30=Avst 2e31=Avst,Cari,Geor,Hung,Kthi,Lydi,Samr ",
  "2e3c,1bca0-1bca3=Dupl 2e41=Adlm,Arab,Hung 2e43=Cyrl,Glag 2ff0-2fff,31ef=Hani,Tang ",
  "3001=Bopo,Hang,Hani,Hira,Kana,Mong,Yiii 3002=Bopo,Hang,Hani,Hira,Kana,Mong,Phag,Yiii ",
  "3003,3013,301c-301f,3030,3037,fe45-fe46=Bopo,Hang,Hani,Hira,Kana ",
  "3006,303e-303f,3190-319f,31c0-31e5,3220-3247,3280-32b0=Hani ",
  "32c0-32cb,32ff,3358-3370,337b-337f,33e0-33fe,1d360-1d371=Hani 1f250-1f251=Hani ",
  "3008-3009=Bopo,Hang,Hani,Hira,Kana,Mong,Tibt,Yiii ",
  "300a-300b=Bopo,Hang,Hani,Hira,Kana,Lisu,Mong,Tibt,Yiii ",
  "300c-3011,3014-301b,30fb,ff61-ff65=Bopo,Hang,Hani,Hira,Kana,Yiii 302a-302d=Bopo,Hani ",
  "3031-3035,3099-309c,30a0,30fc,ff70,ff9e-ff9f=Hira,Kana 303c-303d=Hani,Hira,Kana ",
  "a700-a707=Hani,Latn ",
  "a830-a832=Deva,Dogr,Gujr,Guru,Khoj,Knda,Kthi,Mahj,Mlym,Modi,Nand,Shrd,Sind,Takr,Tirh,Tutg ",
  "a833-a835=Deva,Dogr,Gujr,Guru,Khoj,Knda,Kthi,Mahj,Modi,Nand,Shrd,Sind,Takr,Tirh,Tutg ",
  "a836-a837,a839=Deva,Dogr,Gujr,Guru,Khoj,Kthi,Mahj,Modi,Sind,Takr,Tirh ",
  "a838=Deva,Dogr,Gujr,Guru,Khoj,Kthi,Mahj,Modi,Shrd,Sind,Takr,Tirh a8f1=Beng,Tutg ",
  "a8f3,11301,11303,1133c=Taml a92e=Kali,Latn,Mymr a9cf=Bugi,Java fd3e-fd3f=Arab,Nkoo ",
  "fdf2,fdfd=Thaa 10100-10101=Cpmn,Cprt,Linb 10102,10137-1013f=Cprt,Linb ",
  "10107-10133=Cprt,Lina,Linb 102e0-102fb=Arab,Copt 10af2=Ougr 1133b=Gran,Taml"]

def extensions : List (Ranges × List String) :=
  (extensionText.splitOn " ").map fun entry =>
    match entry.splitOn "=" with
    | [members, codes] =>
      (((members.splitOn ",").map (readSpan ·.toList)).flatten, codes.splitOn ",")
    | _ => ([], [])

/-- The code points that are used in the script with a given code. Those without a script of their
own are in this set only if no script is known. -/
def extendedRanges (code : String) : Ranges :=
  if code == "Zyyy" || code == "Zinh" then
    Ranges.diff (ranges code) (Ranges.ofList (extensions.flatMap (·.1)))
  else
    Ranges.ofList (ranges code ++
      extensions.flatMap fun (members, codes) => if codes.contains code then members else [])

end RuleGate.Unicode.Script
