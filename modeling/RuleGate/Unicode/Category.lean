import RuleGate.Unicode.Ranges

/-! # General categories

Every code point has one general category. The table lists the runs of equal category from the
first code point to the last.
-/
namespace RuleGate.Unicode.Category

/-- The runs of equal general category, in order of code points. -/
def runText : String := String.join [
  "20Cc1Zs3Po1Sc3Po1Ps1Pe1Po1Sm1Po1Pd2Po0aNd2Po3Sm2Po1aLu1Ps1Po1Pe1Sk1Pc1Sk1aLl1Ps1Sm1Pe1Sm21Cc",
  "1Zs1Po4Sc1So1Po1Sk1So1Lo1Pi1Sm1Cf1So1Sk1So1Sm2No1Sk1Ll2Po1Sk1No1Lo1Pf3No1Po17Lu1Sm7Lu18Ll1Sm",
  "8Ll1Lu1Ll1Lu1Ll1Lu1Ll1Lu1Ll1Lu1Ll1Lu1Ll1Lu1Ll1Lu1Ll1Lu1Ll1Lu1Ll1Lu1Ll1Lu1Ll1Lu1Ll1Lu1Ll1Lu1L",
  "l1Lu1Ll1Lu1Ll1Lu1Ll1Lu1Ll1Lu1Ll1Lu1Ll1Lu1Ll1Lu1Ll1Lu1Ll1Lu1Ll1Lu1Ll1Lu1Ll1Lu2Ll1Lu1Ll1Lu1Ll1",
  "Lu1Ll1Lu1Ll1Lu1Ll1Lu1Ll1Lu1Ll1Lu2Ll1Lu1Ll1Lu1Ll1Lu1Ll1Lu1Ll1Lu1Ll1Lu1Ll1Lu1Ll1Lu1Ll1Lu1Ll1Lu",
  "1Ll1Lu1Ll1Lu1Ll1Lu1Ll1Lu1Ll1Lu1Ll1Lu1Ll1Lu1Ll1Lu1Ll1Lu1Ll1Lu1Ll1Lu1Ll1Lu1Ll1Lu1Ll2Lu1Ll1Lu1L",
  "l1Lu3Ll2Lu1Ll1Lu1Ll2Lu1Ll3Lu2Ll4Lu1Ll2Lu1Ll3Lu3Ll2Lu1Ll2Lu1Ll1Lu1Ll1Lu1Ll2Lu1Ll1Lu2Ll1Lu1Ll2",
  "Lu1Ll3Lu1Ll1Lu1Ll2Lu2Ll1Lo1Lu3Ll4Lo1Lu1Lt1Ll1Lu1Lt1Ll1Lu1Lt1Ll1Lu1Ll1Lu1Ll1Lu1Ll1Lu1Ll1Lu1Ll",
  "1Lu1Ll1Lu1Ll1Lu2Ll1Lu1Ll1Lu1Ll1Lu1Ll1Lu1Ll1Lu1Ll1Lu1Ll1Lu1Ll1Lu1Ll1Lu2Ll1Lu1Lt1Ll1Lu1Ll3Lu1L",
  "l1Lu1Ll1Lu1Ll1Lu1Ll1Lu1Ll1Lu1Ll1Lu1Ll1Lu1Ll1Lu1Ll1Lu1Ll1Lu1Ll1Lu1Ll1Lu1Ll1Lu1Ll1Lu1Ll1Lu1Ll1",
  "Lu1Ll1Lu1Ll1Lu1Ll1Lu1Ll1Lu1Ll1Lu1Ll1Lu1Ll1Lu1Ll1Lu1Ll1Lu1Ll1Lu1Ll1Lu1Ll1Lu1Ll1Lu7Ll2Lu1Ll2Lu",
  "2Ll1Lu1Ll4Lu1Ll1Lu1Ll1Lu1Ll1Lu1Ll1Lu45Ll2Lo1aLl12Lm4Sk0cLm0eSk5Lm7Sk1Lm1Sk1Lm11Sk70Mn1Lu1Ll1",
  "Lu1Ll1Lm1Sk1Lu1Ll2Cn1Lm3Ll1Po1Lu4Cn2Sk1Lu1Po3Lu1Cn1Lu1Cn2Lu1Ll11Lu1Cn9Lu23Ll1Lu2Ll3Lu3Ll1Lu1",
  "Ll1Lu1Ll1Lu1Ll1Lu1Ll1Lu1Ll1Lu1Ll1Lu1Ll1Lu1Ll1Lu1Ll1Lu1Ll1Lu1Ll1Lu5Ll1Lu1Ll1Sm1Lu1Ll2Lu2Ll33L",
  "u30Ll1Lu1Ll1Lu1Ll1Lu1Ll1Lu1Ll1Lu1Ll1Lu1Ll1Lu1Ll1Lu1Ll1Lu1Ll1Lu1Ll1Lu1Ll1Lu1Ll1Lu1Ll1Lu1Ll1Lu",
  "1Ll1Lu1Ll1Lu1Ll1So5Mn2Me1Lu1Ll1Lu1Ll1Lu1Ll1Lu1Ll1Lu1Ll1Lu1Ll1Lu1Ll1Lu1Ll1Lu1Ll1Lu1Ll1Lu1Ll1L",
  "u1Ll1Lu1Ll1Lu1Ll1Lu1Ll1Lu1Ll1Lu1Ll1Lu1Ll1Lu1Ll1Lu1Ll1Lu1Ll1Lu1Ll1Lu1Ll1Lu1Ll1Lu1Ll1Lu1Ll1Lu1",
  "Ll2Lu1Ll1Lu1Ll1Lu1Ll1Lu1Ll1Lu1Ll1Lu1Ll1Lu2Ll1Lu1Ll1Lu1Ll1Lu1Ll1Lu1Ll1Lu1Ll1Lu1Ll1Lu1Ll1Lu1Ll",
  "1Lu1Ll1Lu1Ll1Lu1Ll1Lu1Ll1Lu1Ll1Lu1Ll1Lu1Ll1Lu1Ll1Lu1Ll1Lu1Ll1Lu1Ll1Lu1Ll1Lu1Ll1Lu1Ll1Lu1Ll1L",
  "u1Ll1Lu1Ll1Lu1Ll1Lu1Ll1Lu1Ll1Lu1Ll1Lu1Ll1Lu1Ll1Lu1Ll1Lu1Ll1Lu1Ll1Lu1Ll1Lu1Ll1Lu1Ll1Lu1Ll1Lu1",
  "Ll1Lu1Ll1Lu1Ll1Lu1Ll1Lu1Ll1Lu1Ll1Lu1Ll1Lu1Ll1Lu1Ll1Lu1Ll1Cn26Lu2Cn1Lm6Po29Ll1Po1Pd2Cn2So1Sc1",
  "Cn2dMn1Pd1Mn1Po2Mn1Po2Mn1Po1Mn8Cn1bLo4Cn4Lo2Po0bCn6Cf3Sm2Po1Sc2Po2So0bMn1Po1Cf3Po20Lo1Lm0aLo",
  "15Mn0aNd4Po2Lo1Mn63Lo1Po1Lo7Mn1Cf1So6Mn2Lm2Mn1So4Mn2Lo0aNd3Lo2So1Lo0ePo1Cn1Cf1Lo1Mn1eLo1bMn2",
  "Cn59Lo0bMn1Lo0eCn0aNd21Lo9Mn2Lm1So3Po1Lm2Cn1Mn2Sc16Lo4Mn1Lm9Mn1Lm3Mn1Lm5Mn2Cn0fPo1Cn19Lo3Mn2",
  "Cn1Po1Cn0bLo5Cn18Lo1Sk7Lo2Cf5Cn9Mn29Lo1Lm18Mn1Cf20Mn1Mc36Lo1Mn1Mc1Mn1Lo3Mc8Mn4Mc1Mn2Mc1Lo7Mn",
  "0aLo2Mn2Po0aNd1Po1Lm0fLo1Mn2Mc1Cn8Lo2Cn2Lo2Cn16Lo1Cn7Lo1Cn1Lo3Cn4Lo2Cn1Mn1Lo3Mc4Mn2Cn2Mc2Cn2",
  "Mc1Mn1Lo8Cn1Mc4Cn2Lo1Cn3Lo2Mn2Cn0aNd2Lo2Sc6No1So1Sc1Lo1Po1Mn2Cn2Mn1Mc1Cn6Lo4Cn2Lo2Cn16Lo1Cn7",
  "Lo1Cn2Lo1Cn2Lo1Cn2Lo2Cn1Mn1Cn3Mc2Mn4Cn2Mn2Cn3Mn3Cn1Mn7Cn4Lo1Cn1Lo7Cn0aNd2Mn3Lo1Mn1Po0aCn2Mn1",
  "Mc1Cn9Lo1Cn3Lo1Cn16Lo1Cn7Lo1Cn2Lo1Cn5Lo2Cn1Mn1Lo3Mc5Mn1Cn2Mn1Mc1Cn2Mc1Mn2Cn1Lo0fCn2Lo2Mn2Cn0",
  "aNd1Po1Sc7Cn1Lo6Mn1Cn1Mn2Mc1Cn8Lo2Cn2Lo2Cn16Lo1Cn7Lo1Cn2Lo1Cn5Lo2Cn1Mn1Lo1Mc1Mn1Mc4Mn2Cn2Mc2",
  "Cn2Mc1Mn7Cn2Mn1Mc4Cn2Lo1Cn3Lo2Mn2Cn0aNd1So1Lo6No0aCn1Mn1Lo1Cn6Lo3Cn3Lo1Cn4Lo3Cn2Lo1Cn1Lo1Cn2",
  "Lo3Cn2Lo3Cn3Lo3Cn0cLo4Cn2Mc1Mn2Mc3Cn3Mc1Cn3Mc1Mn2Cn1Lo6Cn1Mc0eCn0aNd3No6So1Sc1So5Cn1Mn3Mc1Mn",
  "8Lo1Cn3Lo1Cn17Lo1Cn10Lo2Cn1Mn1Lo3Mn4Mc1Cn3Mn1Cn4Mn7Cn2Mn1Cn3Lo1Cn2Lo2Cn2Lo2Mn2Cn0aNd7Cn1Po7N",
  "o1So1Lo1Mn2Mc1Po8Lo1Cn3Lo1Cn17Lo1Cn0aLo1Cn5Lo2Cn1Mn1Lo1Mc1Mn5Mc1Cn1Mn2Mc1Cn2Mc2Mn7Cn2Mc5Cn3L",
  "o1Cn2Lo2Mn2Cn0aNd1Cn2Lo1Mc0cCn2Mn2Mc9Lo1Cn3Lo1Cn29Lo2Mn1Lo3Mc4Mn1Cn3Mc1Cn3Mc1Mn1Lo1So4Cn3Lo1",
  "Mc7No3Lo2Mn2Cn0aNd9No1So6Lo1Cn1Mn2Mc1Cn12Lo3Cn18Lo1Cn9Lo1Cn1Lo2Cn7Lo3Cn1Mn4Cn3Mc3Mn1Cn1Mn1Cn",
  "8Mc6Cn0aNd2Cn2Mc1Po0cCn30Lo1Mn2Lo7Mn4Cn1Sc6Lo1Lm8Mn1Po0aNd2Po25Cn2Lo1Cn1Lo1Cn5Lo1Cn18Lo1Cn1L",
  "o1Cn0aLo1Mn2Lo9Mn1Lo2Cn5Lo1Cn1Lm1Cn7Mn1Cn0aNd2Cn4Lo20Cn1Lo3So0fPo1So1Po3So2Mn6So0aNd0aNo1So1",
  "Mn1So1Mn1So1Mn1Ps1Pe1Ps1Pe2Mc8Lo1Cn24Lo4Cn0eMn1Mc5Mn1Po2Mn5Lo0bMn1Cn24Mn1Cn8So1Mn6So1Cn2So5P",
  "o4So2Po25Cn2bLo2Mc4Mn1Mc6Mn1Mc2Mn2Mc2Mn1Lo0aNd6Po6Lo2Mc2Mn4Lo3Mn1Lo3Mc2Lo7Mc3Lo4Mn0dLo1Mn2Mc",
  "2Mn6Mc1Mn1Lo1Mc0aNd3Mc1Mn2So26Lu1Cn1Lu5Cn1Lu2Cn2bLl1Po1Lm3Ll149Lo1Cn4Lo2Cn7Lo1Cn1Lo1Cn4Lo2Cn",
  "29Lo1Cn4Lo2Cn21Lo1Cn4Lo2Cn7Lo1Cn1Lo1Cn4Lo2Cn0fLo1Cn39Lo1Cn4Lo2Cn43Lo2Cn3Mn9Po14No3Cn10Lo0aSo",
  "6Cn56Lu2Cn6Ll2Cn1Pd26cLo1So1Po11Lo1Zs1aLo1Ps1Pe3Cn4bLo3Po3Nl8Lo7Cn12Lo3Mn1Mc9Cn13Lo2Mn1Mc2Po",
  "9Cn12Lo2Mn0cCn0dLo1Cn3Lo1Cn2Mn0cCn34Lo2Mn1Mc7Mn8Mc1Mn2Mc0bMn3Po1Lm3Po1Sc1Lo1Mn2Cn0aNd6Cn0aNo",
  "6Cn6Po1Pd4Po3Mn1Cf1Mn0aNd6Cn23Lo1Lm35Lo7Cn5Lo2Mn22Lo1Mn1Lo5Cn46Lo0aCn1fLo1Cn3Mn4Mc2Mn3Mc4Cn2",
  "Mc1Mn6Mc3Mn4Cn1So3Cn2Po0aNd1eLo2Cn5Lo0bCn2cLo4Cn1aLo6Cn0aNd1No3Cn22So17Lo2Mn2Mc1Mn2Cn2Po35Lo",
  "1Mc1Mn1Mc7Mn1Cn1Mn1Mc1Mn2Mc8Mn6Mc0aMn2Cn1Mn0aNd6Cn0aNd6Cn7Po1Lm6Po2Cn0eMn1Me1fMn2Cn0cMn14Cn4",
  "Mn1Mc2fLo1Mn1Mc5Mn1Mc1Mn5Mc1Mn2Mc8Lo1Cn2Po0aNd7Po0aSo9Mn9So3Po2Mn1Mc1eLo1Mc4Mn2Mc2Mn1Mc3Mn2L",
  "o0aNd2cLo1Mn1Mc2Mn3Mc1Mn1Mc3Mn2Mc8Cn4Po24Lo8Mc8Mn2Mc2Mn3Cn5Po0aNd3Cn3Lo0aNd1eLo6Lm2Po9Ll1Lu1",
  "Ll5Cn2bLu2Cn3Lu8Po8Cn3Mn1Po0dMn1Mc7Mn4Lo1Mn6Lo1Mn2Lo1Mc2Mn1Lo5Cn2cLl3fLm0dLl1Lm22Ll25Lm40Mn1",
  "Lu1Ll1Lu1Ll1Lu1Ll1Lu1Ll1Lu1Ll1Lu1Ll1Lu1Ll1Lu1Ll1Lu1Ll1Lu1Ll1Lu1Ll1Lu1Ll1Lu1Ll1Lu1Ll1Lu1Ll1Lu",
  "1Ll1Lu1Ll1Lu1Ll1Lu1Ll1Lu1Ll1Lu1Ll1Lu1Ll1Lu1Ll1Lu1Ll1Lu1Ll1Lu1Ll1Lu1Ll1Lu1Ll1Lu1Ll1Lu1Ll1Lu1L",
  "l1Lu1Ll1Lu1Ll1Lu1Ll1Lu1Ll1Lu1Ll1Lu1Ll1Lu1Ll1Lu1Ll1Lu1Ll1Lu1Ll1Lu1Ll1Lu1Ll1Lu1Ll1Lu1Ll1Lu1Ll1",
  "Lu1Ll1Lu1Ll1Lu1Ll1Lu1Ll1Lu1Ll1Lu1Ll1Lu1Ll1Lu1Ll1Lu1Ll1Lu1Ll1Lu1Ll1Lu1Ll1Lu1Ll1Lu1Ll1Lu1Ll1Lu",
  "1Ll1Lu1Ll1Lu1Ll1Lu1Ll1Lu1Ll1Lu1Ll1Lu1Ll1Lu1Ll1Lu1Ll1Lu1Ll1Lu1Ll1Lu1Ll1Lu1Ll1Lu9Ll1Lu1Ll1Lu1L",
  "l1Lu1Ll1Lu1Ll1Lu1Ll1Lu1Ll1Lu1Ll1Lu1Ll1Lu1Ll1Lu1Ll1Lu1Ll1Lu1Ll1Lu1Ll1Lu1Ll1Lu1Ll1Lu1Ll1Lu1Ll1",
  "Lu1Ll1Lu1Ll1Lu1Ll1Lu1Ll1Lu1Ll1Lu1Ll1Lu1Ll1Lu1Ll1Lu1Ll1Lu1Ll1Lu1Ll1Lu1Ll1Lu1Ll1Lu1Ll1Lu1Ll1Lu",
  "1Ll1Lu1Ll1Lu1Ll1Lu1Ll1Lu1Ll1Lu1Ll1Lu1Ll1Lu1Ll1Lu1Ll1Lu1Ll1Lu1Ll1Lu1Ll1Lu1Ll1Lu1Ll1Lu1Ll1Lu1L",
  "l1Lu9Ll8Lu6Ll2Cn6Lu2Cn8Ll8Lu8Ll8Lu6Ll2Cn6Lu2Cn8Ll1Cn1Lu1Cn1Lu1Cn1Lu1Cn1Lu8Ll8Lu0eLl2Cn8Ll8Lt",
  "8Ll8Lt8Ll8Lt5Ll1Cn2Ll4Lu1Lt1Sk1Ll3Sk3Ll1Cn2Ll4Lu1Lt3Sk4Ll2Cn2Ll4Lu1Cn3Sk8Ll5Lu3Sk2Cn3Ll1Cn2L",
  "l4Lu1Lt2Sk1Cn0bZs5Cf6Pd2Po1Pi1Pf1Ps2Pi1Pf1Ps1Pi8Po1Zl1Zp5Cf1Zs9Po1Pi1Pf4Po2Pc3Po1Sm1Ps1Pe0bP",
  "o1Sm1Po1Pc0aPo1Zs5Cf1Cn0aCf1No1Lm2Cn6No3Sm1Ps1Pe1Lm0aNo3Sm1Ps1Pe1Cn0dLm3Cn22Sc0eCn0dMn4Me1Mn",
  "3Me0cMn0fCn2So1Lu4So1Lu2So1Ll3Lu2Ll3Lu1Ll1So1Lu2So1Sm5Lu6So1Lu1So1Lu1So1Lu1So4Lu1So1Ll4Lu1Ll",
  "4Lo1Ll2So2Ll2Lu5Sm1Lu4Ll1So1Sm2So1Ll1So10No23Nl1Lu1Ll4Nl1No2So4Cn5Sm5So2Sm4So1Sm2So1Sm2So1Sm",
  "7So1Sm1fSo2Sm2So1Sm1So1Sm1fSo10cSm8So1Ps1Pe1Ps1Pe14So2Sm7So1Ps1Pe51So1Sm1eSo19Sm28So6Sm48So1",
  "6Cn0bSo15Cn3cNo4eSo16No0b7So1Sm9So1Sm36So8Sm6fSo1Sm0f8So1Ps1Pe1Ps1Pe1Ps1Pe1Ps1Pe1Ps1Pe1Ps1Pe",
  "1Ps1Pe1eNo2cSo5Sm1Ps1Pe1fSm1Ps1Pe1Ps1Pe1Ps1Pe1Ps1Pe1Ps1Pe10Sm100So83Sm1Ps1Pe1Ps1Pe1Ps1Pe1Ps1",
  "Pe1Ps1Pe1Ps1Pe1Ps1Pe1Ps1Pe1Ps1Pe1Ps1Pe1Ps1Pe3fSm1Ps1Pe1Ps1Pe20Sm1Ps1Pe102Sm30So15Sm2So6Sm27S",
  "o2Cn8aSo30Lu30Ll1Lu1Ll3Lu2Ll1Lu1Ll1Lu1Ll1Lu1Ll4Lu1Ll1Lu2Ll1Lu6Ll2Lm3Lu1Ll1Lu1Ll1Lu1Ll1Lu1Ll1",
  "Lu1Ll1Lu1Ll1Lu1Ll1Lu1Ll1Lu1Ll1Lu1Ll1Lu1Ll1Lu1Ll1Lu1Ll1Lu1Ll1Lu1Ll1Lu1Ll1Lu1Ll1Lu1Ll1Lu1Ll1Lu",
  "1Ll1Lu1Ll1Lu1Ll1Lu1Ll1Lu1Ll1Lu1Ll1Lu1Ll1Lu1Ll1Lu1Ll1Lu1Ll1Lu1Ll1Lu1Ll1Lu1Ll1Lu1Ll1Lu1Ll1Lu1L",
  "l1Lu1Ll1Lu1Ll1Lu1Ll1Lu1Ll1Lu1Ll1Lu1Ll1Lu1Ll1Lu1Ll1Lu1Ll1Lu1Ll1Lu1Ll1Lu1Ll1Lu1Ll1Lu1Ll1Lu2Ll6",
  "So1Lu1Ll1Lu1Ll3Mn1Lu1Ll5Cn4Po1No2Po26Ll1Cn1Ll5Cn1Ll2Cn38Lo7Cn1Lm1Po0eCn1Mn17Lo9Cn7Lo1Cn7Lo1C",
  "n7Lo1Cn7Lo1Cn7Lo1Cn7Lo1Cn7Lo1Cn7Lo1Cn20Mn2Po1Pi1Pf1Pi1Pf3Po1Pi1Pf1Po1Pi1Pf9Po1Pd2Po1Pd1Po1Pi",
  "1Pf2Po1Pi1Pf1Ps1Pe1Ps1Pe1Ps1Pe1Ps1Pe5Po1Lm0aPo2Pd4Po1Pd1Po1Ps0dPo2So3Po1Ps1Pe1Ps1Pe1Ps1Pe1Ps",
  "1Pe1Pd22Cn1aSo1Cn59So0cCn0d6So1aCn10So1Zs3Po1So1Lm1Lo1Nl1Ps1Pe1Ps1Pe1Ps1Pe1Ps1Pe1Ps1Pe2So1Ps",
  "1Pe1Ps1Pe1Ps1Pe1Ps1Pe1Pd1Ps2Pe1So9Nl4Mn2Mc1Pd5Lm2So3Nl1Lm1Lo1Po2So1Cn56Lo2Cn2Mn2Sk2Lm1Lo1Pd5",
  "aLo1Po3Lm1Lo5Cn2bLo1Cn5eLo1Cn2So4No0aSo20Lo26So9Cn1So10Lo1fSo1Cn0aNo1eSo8No1So0fNo20So0aNo27",
  "So0fNo140So19c0Lo40So5215Lo1Lm477Lo3Cn37So9Cn28Lo6Lm2Po10cLo1Lm3Po10Lo0aNd2Lo14Cn1Lu1Ll1Lu1L",
  "l1Lu1Ll1Lu1Ll1Lu1Ll1Lu1Ll1Lu1Ll1Lu1Ll1Lu1Ll1Lu1Ll1Lu1Ll1Lu1Ll1Lu1Ll1Lu1Ll1Lu1Ll1Lu1Ll1Lu1Ll1",
  "Lu1Ll1Lu1Ll1Lu1Ll1Lu1Ll1Lu1Ll1Lu1Ll1Lo1Mn3Me1Po0aMn1Po1Lm1Lu1Ll1Lu1Ll1Lu1Ll1Lu1Ll1Lu1Ll1Lu1L",
  "l1Lu1Ll1Lu1Ll1Lu1Ll1Lu1Ll1Lu1Ll1Lu1Ll1Lu1Ll1Lu1Ll2Lm2Mn46Lo0aNl2Mn6Po8Cn17Sk9Lm2Sk1Lu1Ll1Lu1",
  "Ll1Lu1Ll1Lu1Ll1Lu1Ll1Lu1Ll1Lu3Ll1Lu1Ll1Lu1Ll1Lu1Ll1Lu1Ll1Lu1Ll1Lu1Ll1Lu1Ll1Lu1Ll1Lu1Ll1Lu1Ll",
  "1Lu1Ll1Lu1Ll1Lu1Ll1Lu1Ll1Lu1Ll1Lu1Ll1Lu1Ll1Lu1Ll1Lu1Ll1Lu1Ll1Lu1Ll1Lu1Ll1Lu1Ll1Lu1Ll1Lu1Ll1L",
  "u1Ll1Lu1Ll1Lu1Ll1Lu1Ll1Lu1Ll1Lu1Ll1Lm8Ll1Lu1Ll1Lu1Ll2Lu1Ll1Lu1Ll1Lu1Ll1Lu1Ll1Lu1Ll1Lm2Sk1Lu1",
  "Ll1Lu1Ll1Lo1Lu1Ll1Lu3Ll1Lu1Ll1Lu1Ll1Lu1Ll1Lu1Ll1Lu1Ll1Lu1Ll1Lu1Ll1Lu1Ll1Lu1Ll1Lu1Ll5Lu1Ll5Lu",
  "1Ll1Lu1Ll1Lu1Ll1Lu1Ll1Lu1Ll1Lu1Ll1Lu1Ll1Lu1Ll4Lu1Ll1Lu1Ll2Lu1Ll1Lu1Ll1Lu1Ll1Lu1Ll1Lu1Ll1Lu1L",
  "l1Lu1Ll1Lu1Ll1Lu14Cn4Lm1Lu1Ll1Lo2Lm1Ll7Lo1Mn3Lo1Mn4Lo1Mn17Lo2Mc2Mn1Mc4So1Mn3Cn6No2So1Sc1So6C",
  "n34Lo4Po8Cn2Mc32Lo10Mc2Mn8Cn2Po0aNd6Cn12Mn6Lo3Po1Lo1Po2Lo1Mn0aNd1cLo8Mn2Po17Lo0bMn2Mc0bCn1Po",
  "1dLo3Cn3Mn1Mc2fLo1Mn2Mc4Mn2Mc2Mn3Mc0dPo1Cn1Lm0aNd4Cn2Po5Lo1Mn1Lm9Lo0aNd5Lo1Cn29Lo6Mn2Mc2Mn2M",
  "c2Mn9Cn3Lo1Mn8Lo1Mn1Mc2Cn0aNd2Cn4Po10Lo1Lm6Lo3So1Lo1Mc1Mn1Mc32Lo1Mn1Lo3Mn2Lo2Mn5Lo2Mn1Lo1Mn1",
  "Lo18Cn2Lo1Lm2Po0bLo1Mc2Mn2Mc2Po1Lo2Lm1Mc1Mn0aCn6Lo2Cn6Lo2Cn6Lo9Cn7Lo1Cn7Lo1Cn2bLl1Sk4Lm9Ll1L",
  "m2Sk4Cn50Ll23Lo2Mc1Mn2Mc1Mn2Mc1Po1Mc1Mn2Cn0aNd6Cn2ba4Lo0cCn17Lo4Cn31Lo4Cn800Cs1900Co16eLo2Cn",
  "6aLo26Cn7Ll0cCn5Ll5Cn1Lo1Mn0aLo1Sm0dLo1Cn5Lo1Cn1Lo1Cn2Lo1Cn2Lo1Cn6cLo11Sk10So16bLo1Pe1Ps10So",
  "40Lo2So36Lo8So20Cn0cLo1Sc3So10Mn7Po1Ps1Pe1Po6Cn10Mn1Po2Pd2Pc1Ps1Pe1Ps1Pe1Ps1Pe1Ps1Pe1Ps1Pe1P",
  "s1Pe1Ps1Pe1Ps1Pe2Po1Ps1Pe4Po3Pc3Po1Cn4Po1Pd1Ps1Pe1Ps1Pe1Ps1Pe3Po1Sm1Pd3Sm1Cn1Po1Sc2Po4Cn5Lo1",
  "Cn87Lo2Cn1Cf1Cn3Po1Sc3Po1Ps1Pe1Po1Sm1Po1Pd2Po0aNd2Po3Sm2Po1aLu1Ps1Po1Pe1Sk1Pc1Sk1aLl1Ps1Sm1P",
  "e1Sm1Ps1Pe1Po1Ps1Pe2Po0aLo1Lm2dLo2Lm1fLo3Cn6Lo2Cn6Lo2Cn6Lo2Cn3Lo3Cn2Sc1Sm1Sk1So2Sc1Cn1So4Sm2",
  "So0aCn3Cf2So2Cn0cLo1Cn1aLo1Cn13Lo1Cn2Lo1Cn0fLo2Cn0eLo22Cn7bLo5Cn3Po4Cn2dNo3Cn9So35Nl4No11So2",
  "No3So1Cn0dSo3Cn1So2fCn2dSo1Mn82Cn1dLo3Cn31Lo0fCn1Mn1bNo4Cn20Lo4No9Cn14Lo1Nl8Lo1Nl5Cn26Lo5Mn5",
  "Cn1eLo1Cn1Po24Lo4Cn8Lo1Po5Nl2aCn28Lu28Ll4eLo2Cn0aNd6Cn24Lu4Cn24Ll4Cn28Lo8Cn34Lo0bCn1Po0bLu1C",
  "n0fLu1Cn7Lu1Cn2Lu1Cn0bLl1Cn0fLl1Cn7Ll1Cn2Ll3Cn34Lo0cCn137Lo9Cn16Lo0aCn8Lo18Cn6Lm1Cn2aLm1Cn9L",
  "m45Cn6Lo2Cn1Lo1Cn2cLo1Cn2Lo3Cn1Lo2Cn17Lo1Cn1Po8No17Lo2So7No1fLo8Cn9No30Cn13Lo1Cn2Lo5Cn5No16L",
  "o6No3Cn1Po1aLo5Cn1Po1aLo26Cn38Lo4Cn2No2Lo10No2Cn2eNo1Lo3Mn1Cn2Mn5Cn4Mn4Lo1Cn3Lo1Cn1dLo2Cn3Mn",
  "4Cn1Mn9No7Cn9Po7Cn1dLo2No1Po1dLo3No20Cn8Lo1So1cLo2Mn4Cn5No7Po9Cn36Lo3Cn7Po16Lo2Cn8No13Lo5Cn8",
  "No12Lo7Cn4Po0cCn7No50Cn49Lo37Cn33Lu0dCn33Ll7Cn6No24Lo4Mn8Cn0aNd6Cn0aNd4Lo1Lm1Lo16Lu3Cn5Mn1Pd",
  "1Lm16Ll8Cn2Sm0d0Cn1fNo1Cn2aLo1Cn2Mn1Pd2Cn2Lo10Cn3Lo1Lm2Lo8Cn1Po8So21Cn6Mn1dLo0aNo1Lo8Cn16Lo0",
  "bMn4No5Po16Cn12Lo4Mn4Po26Cn15Lo7No14Cn17Lo9Cn1Mc1Mn1Mc35Lo0fMn7Po4Cn14No0aNd1Mn2Lo2Mn1Lo9Cn3",
  "Mn1Mc2dLo3Mc4Mn2Mc2Mn2Po1Cf4Po1Mn0aCn1Cf2Cn19Lo7Cn0aNd6Cn3Mn24Lo5Mn1Mc8Mn1Cn0aNd4Po1Lo2Mc1Lo",
  "8Cn23Lo1Mn2Po1Lo9Cn2Mn1Mc30Lo3Mc9Mn2Mc4Lo4Po4Mn1Po1Mc1Mn0aNd1Lo1Po1Lo3Po1Cn14No0bCn12Lo1Cn19",
  "Lo3Mc3Mn2Mc1Mn1Mc2Mn6Po1Mn2Lo1Mn3eCn7Lo1Cn1Lo1Cn4Lo1Cn0fLo1Cn0aLo1Po6Cn2fLo1Mn3Mc8Mn5Cn0aNd6",
  "Cn2Mn2Mc1Cn8Lo2Cn2Lo2Cn16Lo1Cn7Lo1Cn2Lo1Cn5Lo1Cn2Mn1Lo2Mc1Mn4Mc2Cn2Mc2Cn3Mc2Cn1Lo6Cn1Mc5Cn5L",
  "o2Mc2Cn7Mn3Cn5Mn0bCn0aLo1Cn1Lo2Cn1Lo1Cn26Lo1Cn1Lo3Mc6Mn1Cn1Mc2Cn1Mc1Cn4Mc1Cn2Mc1Mn1Mc1Mn1Lo1",
  "Mn1Lo2Po1Cn2Po8Cn2Mn1dCn35Lo3Mc8Mn2Mc3Mn1Mc1Mn4Lo5Po0aNd2Po1Cn1Po1Mn3Lo1eCn30Lo3Mc6Mn1Mc1Mn4",
  "Mc2Mn1Mc2Mn2Lo1Po1Lo8Cn0aNd0a6Cn2fLo3Mc4Mn2Cn4Mc2Mn1Mc2Mn17Po4Lo2Mn22Cn30Lo3Mc8Mn2Mc1Mn1Mc2M",
  "n3Po1Lo0bCn0aNd6Cn0dPo13Cn2bLo1Mn1Mc1Mn2Mc6Mn1Mc1Mn1Lo1Po6Cn0aNd6Cn14Nd1cCn1bLo2Cn1Mn1Mc1Mn2",
  "Mc4Mn1Mc5Mn4Cn0aNd2No3Po1So7Lo0b9Cn2cLo3Mc9Mn1Mc2Mn1Po64Cn20Lu20Ll0aNd9No0cCn8Lo2Cn1Lo2Cn8Lo",
  "1Cn2Lo1Cn18Lo6Mc1Cn2Mc2Cn2Mn1Mc1Mn1Lo1Mc1Lo1Mc1Mn3Po9Cn0aNd46Cn8Lo2Cn27Lo3Mc4Mn2Cn2Mn4Mc1Mn1",
  "Lo1Po1Lo1Mc1bCn1Lo0aMn28Lo6Mn1Mc1Lo4Mn8Po1Mn8Cn1Lo6Mn2Mc3Mn2eLo0dMn1Mc2Mn3Po1Lo5Po0dCn49Lo7C",
  "n0aPo56Cn1Mn1Mc3Mn1Mc1Mn1Mc58Cn21Lo1Po0eCn0aNd6Cn9Lo1Cn25Lo1Mc7Mn1Cn6Mn1Mc1Mn1Lo5Po0aCn0aNd1",
  "3No3Cn2Po1eLo2Cn16Mn1Cn1Mc7Mn1Mc2Mn1Mc2Mn49Cn7Lo1Cn2Lo1Cn26Lo6Mn3Cn1Mn1Cn2Mn1Cn7Mn1Lo1Mn8Cn0",
  "aNd6Cn6Lo1Cn2Lo1Cn20Lo5Mc1Cn2Mn1Cn2Mc1Mn1Mc1Mn1Lo7Cn0aNd6Cn29Lo1Lm2Lo4Cn0aNd0f6Cn13Lo2Mn2Mc2",
  "Po7Cn2Mn1Lo1Mc0dLo1Cn22Lo2Mc5Mn3Cn2Mc1Mn1Mc1Mn0dPo0aNd1Mn55Cn1Lo0fCn15No8So4Sc11So0dCn1Po39a",
  "Lo66Cn6fNl1Cn5Po0bCn0c4Lo0a4cCn61Lo2Po0dCn430Lo10Cf1Mn6Lo0fMn0aCn0f9bLo5Cn247Lo1ab9Cn1eLo0cM",
  "n3Mc3Mn0aNd6c6Cn239Lo7Cn1fLo1Cn0aNd4Cn2Po4fLo1Cn0aNd6Cn1eLo2Cn5Mn1Po0aCn30Lo7Mn5Po4So4Lm1Po1",
  "So0aCn0aNd1Cn7No1Cn15Lo5Cn13Lo1b0Cn3Lm28Lo2Lm3Po0aNd0c6Cn20Lu20Ll17No4Po5Cn19Lu2Cn19Ll2cCn4b",
  "Lo4Cn1Mn1Lo37Mc7Cn4Mn0dLm40Cn2Lm1Po1Lm1Mn0bCn2Mc2Lm3Nl9Cn1cd6Lo29Cn20Lo61Cn73Lo21fdCn4Lm1Cn7",
  "Lm1Cn2Lm1Cn123Lo0fCn1Lo1dCn3Lo2Cn1Lo0eCn4Lo8Cn18cLo904Cn6bLo5Cn0dLo3Cn9Lo7Cn0aLo2Cn1So2Mn1Po",
  "4Cf0f5cCn0f0So0aNd3So3Cn1b4So6Cn17So0fCn10So1Sm0fCn2eMn2Cn17Mn9Cn74So3cCn0f6So0aCn27So2Cn3cS",
  "o2Mc3Mn3So6Mc8Cf8Mn2So7Mn1eSo4Mn3dSo15Cn42So3Mn1So7aCn14No0cCn14No0cCn57So9Cn19No87Cn1aLu1aL",
  "l1aLu7Ll1Cn12Ll1aLu1aLl1Lu1Cn2Lu2Cn1Lu2Cn2Lu2Cn4Lu1Cn8Lu4Ll1Cn1Ll1Cn7Ll1Cn0bLl1aLu1aLl2Lu1Cn",
  "4Lu2Cn8Lu1Cn7Lu1Cn1aLl2Lu1Cn4Lu1Cn5Lu1Cn1Lu3Cn7Lu1Cn1aLl1aLu1aLl1aLu1aLl1aLu1aLl1aLu1aLl1aLu",
  "1aLl1aLu1cLl2Cn19Lu1Sm19Ll1Sm6Ll19Lu1Sm19Ll1Sm6Ll19Lu1Sm19Ll1Sm6Ll19Lu1Sm19Ll1Sm6Ll19Lu1Sm19",
  "Ll1Sm6Ll1Lu1Ll2Cn32Nd200So37Mn4So32Mn8So1Mn0eSo1Mn2So5Po0fCn5Mn1Cn0fMn450Cn0aLl1Lo14Ll6Cn6Ll",
  "0d5Cn7Mn1Cn11Mn2Cn7Mn1Cn2Mn1Cn5Mn5Cn3eLm21Cn1Mn70Cn2dLo3Cn7Mn7Lm2Cn0aNd4Cn1Lo1So140Cn1eLo1Mn",
  "11Cn2cLo4Mn0aNd5Cn1Sc1d0Cn1bLo1Lm4Mn0aNd0d6Cn1eLo2Mn1Lo0aNd4Cn1Po0c0Cn1fLo1Cn3Lo1Mn2Lo1Mn7Lo",
  "2Mn5Lo1Mn8Cn1Lo1Lm0e0Cn7Lo1Cn4Lo1Cn2Lo1Cn0fLo1Cn0c5Lo2Cn9No7Mn29Cn22Lu22Ll7Mn1Lm4Cn0aNd4Cn2P",
  "o311Cn3bNo1So3No1Sc4No4cCn2dNo1So0fNo0c2Cn4Lo1Cn1bLo1Cn2Lo1Cn1Lo2Cn1Lo1Cn0aLo1Cn4Lo1Cn1Lo1Cn",
  "1Lo6Cn1Lo4Cn1Lo1Cn1Lo1Cn1Lo1Cn3Lo1Cn2Lo1Cn1Lo2Cn1Lo1Cn1Lo1Cn1Lo1Cn1Lo1Cn1Lo1Cn2Lo1Cn1Lo2Cn4L",
  "o1Cn7Lo1Cn4Lo1Cn4Lo1Cn1Lo1Cn0aLo1Cn11Lo5Cn3Lo1Cn5Lo1Cn11Lo34Cn2Sm10eCn2cSo4Cn64So0cCn0fSo2Cn",
  "0fSo1Cn0fSo1Cn25So0aCn0dNo0a1So38Cn1dSo0dCn2cSo4Cn9So7Cn2So0eCn6So9aCn0fbSo5Sk2d9So3Cn11So3C",
  "n0dSo3Cn0daSo6Cn0cSo4Cn1So0fCn0cSo4Cn38So8Cn0aSo6Cn28So8Cn1eSo2Cn0cSo4Cn2So0eCn9Sm27Cn158So8",
  "Cn0eSo2Cn0dSo3Cn0bSo3Cn39So1Cn1So4Cn10So2Cn0cSo4Cn0aSo7Cn93So1Cn5cSo0aNd1So405Cn0a6e0Lo20Cn1",
  "11eLo2Cn168eLo2Cn1d31Lo0fCn26eLo9a2Cn21eLo5e2Cn134bLo5Cn212aLo0acb87Cn1Cf1eCn60Cf80Cn0f0Mn0f",
  "e10Cn0fffeCo2Cn0fffeCo2Cn"]

def runs : List (Nat × String) := readRuns runText

/-- The code points whose category is one of `names`. -/
def ranges (names : List String) : Ranges :=
  let rec go : Nat → List (Nat × String) → Ranges → Ranges
    | _, [], acc => acc.reverse
    | at_, (n, name) :: r, acc =>
      go (at_ + n) r (if names.contains name then (at_, at_ + n - 1) :: acc else acc)
  Ranges.ofList (go 0 runs [])

end RuleGate.Unicode.Category
