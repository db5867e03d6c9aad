import RuleGate.Unicode.Category

/-! # Directions of writing

A character is written from left to right or from right to left, or it takes the direction of those
around it. The tables are those of the characters that a domain name may have.
-/
namespace RuleGate.Unicode

/-- The direction of a character within a line. -/
inductive Direction where
  | left
  | right
  | europeanDigit
  | arabicDigit
  | mark
  | neutral
  deriving DecidableEq

namespace Direction

def europeanDigits : Ranges := [(0x30, 0x39), (0x6F0, 0x6F9), (0x102E1, 0x102FB)]

def arabicDigits : Ranges :=
  [(0x660, 0x669), (0x66B, 0x66C), (0x10D30, 0x10D39), (0x10D40, 0x10D49), (0x10E60, 0x10E7E)]

/-- The marks without a direction; a few nonspacing ones have that of the letters. -/
def marks : Ranges :=
  Ranges.union [(0x1171E, 0x1171E)]
    (Ranges.diff (Category.ranges ["Mn", "Me"])
      [(0xCBF, 0xCBF), (0xCC6, 0xCC6), (0x11A07, 0x11A08), (0x11C3F, 0x11C3F)])

def neutrals : Ranges := readRanges (String.join [
  "21-2f 3a-60 7b-d7 f7 2b9-2ba 2c2-2cf 2d2-2ed 2ef-2ff 375 3f6 58a-58f 606-607 609-60a 60c ",
  "60e-60f 66a 6de 6e9 7f6-7f9 9f2-9f3 9fb af1 bf3-bfa c78-c7e e3f f3a-f3d 1390-1399 1400 ",
  "169b-169c 17db 17f0-180a 1940-1945 19de-19ff 200c-20c1 2104-214d 218a-2335 237b-2394 ",
  "2396-26ab 26ad-27ff 2900-2bff 2ce5-2cea 2cf9-2cff 2e00-3004 3008-3020 3030 3037 303d-303f ",
  "30a0 30fb 31c0-31e5 4dc0-4dff a490-a4c6 a60d-a60f a673 a67e-a67f a700-a721 a788 a828-a82b ",
  "a838-a839 a874-a877 ab6a-ab6b fbc3-fdff fe45-fe46 10101 10140-1018c 10190-101a0 1091f ",
  "10b39-10b3f 10d6e 10ed0-10ed8 11052-11065 11660-1166c 11fd5-11ff1 16fe2 1cc00-1cef0 ",
  "1d1e9-1d241 1d245 1d300-1d356 1e2ff 1eef0-1f12f 1f16d-1f16f 1f1ad 1f260-1fbfa"])

/-- The blocks of the scripts that are written from right to left. -/
def rightward : Ranges :=
  [(0x590, 0x8FF), (0xFB1D, 0xFDFF), (0xFE70, 0xFEFC), (0x10800, 0x10FFF), (0x1E800, 0x1EFFF)]

def ofChar (c : Char) : Direction :=
  if Ranges.contains europeanDigits c.toNat then .europeanDigit
  else if Ranges.contains arabicDigits c.toNat then .arabicDigit
  else if Ranges.contains marks c.toNat then .mark
  else if Ranges.contains neutrals c.toNat then .neutral
  else if Ranges.contains rightward c.toNat then .right
  else .left

end Direction

end RuleGate.Unicode
