import BotBindings.Text.Mark

/-!
# Directions of writing

The direction that a character is written in. Digits and other symbols go either way.

Of a character that is another way to write some letter, the direction is that of the letter. What
no word can consist of has no direction that matters, so a set may hold it or not.
-/

namespace BotBindings.Text

/-- A direction of writing. -/
inductive Direction
  | leftToRight
  | rightToLeft
  /-- A digit between letters of any direction. -/
  | digit
  /-- A digit between letters that are written from right to left. -/
  | arabicDigit
  /-- A mark, which goes where its letter goes. -/
  | mark
  /-- Any other character. -/
  | neutral
  deriving DecidableEq, Repr

/-- Letters that are written from right to left. -/
def rightToLeftLetters : CharSet :=
  [⟨0x5BE, 0x5F4, 1⟩, ⟨0x608, 0x608, 1⟩, ⟨0x60B, 0x60B, 1⟩, ⟨0x60D, 0x60D, 1⟩, ⟨0x61B, 0x64A, 1⟩,
   ⟨0x66D, 0x6D5, 1⟩, ⟨0x6E5, 0x6E6, 1⟩, ⟨0x6EE, 0x6EF, 1⟩, ⟨0x6FA, 0x7F5, 1⟩, ⟨0x7FA, 0x8C9, 1⟩,
   ⟨0x2135, 0x2138, 1⟩, ⟨0xFB1D, 0xFD3D, 1⟩, ⟨0xFD50, 0xFDCE, 1⟩, ⟨0xFDF0, 0xFDFC, 1⟩,
   ⟨0xFE71, 0xFEFC, 1⟩, ⟨0x10800, 0x1091B, 1⟩, ⟨0x10920, 0x10B35, 1⟩, ⟨0x10B40, 0x10D23, 1⟩,
   ⟨0x10D40, 0x10D8F, 1⟩, ⟨0x10E80, 0x10FF6, 1⟩, ⟨0x1E800, 0x1EEBB, 1⟩]

/-- Digits between letters of any direction. -/
def digits : CharSet :=
  [⟨0x30, 0x39, 1⟩, ⟨0x6F0, 0x6F9, 1⟩, ⟨0x102E1, 0x102FB, 1⟩]

/-- Digits between letters that are written from right to left. -/
def arabicDigits : CharSet :=
  [⟨0x660, 0x669, 1⟩, ⟨0x66B, 0x66C, 1⟩, ⟨0x10D30, 0x10D39, 1⟩, ⟨0x10E60, 0x10E7E, 1⟩]

/-- Characters without a direction that are neither digits nor marks. -/
def neutralChars : CharSet :=
  [⟨0x0, 0x2F, 1⟩, ⟨0x3A, 0x40, 1⟩, ⟨0x5B, 0x60, 1⟩, ⟨0x7B, 0x7F, 1⟩, ⟨0xA1, 0xB1, 1⟩,
   ⟨0xB6, 0xBF, 1⟩, ⟨0xD7, 0xD7, 1⟩, ⟨0xF7, 0xF7, 1⟩, ⟨0x2B9, 0x2BA, 1⟩, ⟨0x2C2, 0x2CF, 1⟩,
   ⟨0x2D2, 0x2DF, 1⟩, ⟨0x2E5, 0x2ED, 1⟩, ⟨0x2EF, 0x2FF, 1⟩, ⟨0x374, 0x375, 1⟩, ⟨0x387, 0x387, 1⟩,
   ⟨0x3F6, 0x3F6, 1⟩, ⟨0x58A, 0x58F, 1⟩, ⟨0x606, 0x607, 1⟩, ⟨0x609, 0x60A, 1⟩, ⟨0x60C, 0x60C, 1⟩,
   ⟨0x60E, 0x60F, 1⟩, ⟨0x66A, 0x66A, 1⟩, ⟨0x6DE, 0x6DE, 1⟩, ⟨0x6E9, 0x6E9, 1⟩, ⟨0x7F6, 0x7F9, 1⟩,
   ⟨0x9F2, 0x9F3, 1⟩, ⟨0x9FB, 0x9FB, 1⟩, ⟨0xAF1, 0xAF1, 1⟩, ⟨0xBF3, 0xBFA, 1⟩, ⟨0xC78, 0xC7E, 1⟩,
   ⟨0xE3F, 0xE3F, 1⟩, ⟨0xF3A, 0xF3D, 1⟩, ⟨0x1390, 0x1399, 1⟩, ⟨0x1400, 0x1400, 1⟩,
   ⟨0x169B, 0x169C, 1⟩, ⟨0x17DB, 0x17DB, 1⟩, ⟨0x17F0, 0x180E, 1⟩, ⟨0x1940, 0x1945, 1⟩,
   ⟨0x19DE, 0x19FF, 1⟩, ⟨0x200B, 0x208B, 1⟩, ⟨0x20A0, 0x2104, 1⟩, ⟨0x2108, 0x2108, 1⟩,
   ⟨0x2114, 0x2125, 1⟩, ⟨0x2127, 0x2129, 1⟩, ⟨0x212E, 0x212E, 1⟩, ⟨0x213A, 0x213A, 1⟩,
   ⟨0x2140, 0x214D, 1⟩, ⟨0x218A, 0x2335, 1⟩, ⟨0x237B, 0x2394, 1⟩, ⟨0x2396, 0x26AB, 1⟩,
   ⟨0x26AD, 0x27FF, 1⟩, ⟨0x2900, 0x2BFF, 1⟩, ⟨0x2CE5, 0x2CEA, 1⟩, ⟨0x2CF9, 0x2CFF, 1⟩,
   ⟨0x2E00, 0x2E9E, 1⟩, ⟨0x2EA0, 0x2EF2, 1⟩, ⟨0x3001, 0x3004, 1⟩, ⟨0x3008, 0x3020, 1⟩,
   ⟨0x3030, 0x3030, 1⟩, ⟨0x3036, 0x3037, 1⟩, ⟨0x303D, 0x303F, 1⟩, ⟨0x30A0, 0x30A0, 1⟩,
   ⟨0x30FB, 0x30FB, 1⟩, ⟨0x31C0, 0x31E5, 1⟩, ⟨0x4DC0, 0x4DFF, 1⟩, ⟨0xA490, 0xA4C6, 1⟩,
   ⟨0xA60D, 0xA60F, 1⟩, ⟨0xA673, 0xA67F, 1⟩, ⟨0xA700, 0xA721, 1⟩, ⟨0xA788, 0xA788, 1⟩,
   ⟨0xA828, 0xA82B, 1⟩, ⟨0xA838, 0xA839, 1⟩, ⟨0xA874, 0xA877, 1⟩, ⟨0xAB6A, 0xAB6B, 1⟩,
   ⟨0xFD3E, 0xFD4F, 1⟩, ⟨0xFDCF, 0xFDCF, 1⟩, ⟨0xFDFD, 0xFE5E, 1⟩, ⟨0xFEFF, 0xFF65, 1⟩,
   ⟨0xFFE0, 0xFFEE, 1⟩, ⟨0x10101, 0x10101, 1⟩, ⟨0x10140, 0x1018C, 1⟩, ⟨0x10190, 0x101A0, 1⟩,
   ⟨0x1091F, 0x1091F, 1⟩, ⟨0x10B39, 0x10B3F, 1⟩, ⟨0x11052, 0x11065, 1⟩, ⟨0x11660, 0x1166C, 1⟩,
   ⟨0x1171E, 0x1171E, 1⟩, ⟨0x11FD5, 0x11FF1, 1⟩, ⟨0x16FE2, 0x16FE2, 1⟩, ⟨0x1BCA0, 0x1BCA3, 1⟩,
   ⟨0x1CC00, 0x1CEF0, 1⟩, ⟨0x1D173, 0x1D17A, 1⟩, ⟨0x1D1E9, 0x1D245, 1⟩, ⟨0x1D300, 0x1D356, 1⟩,
   ⟨0x1D6C1, 0x1D6C1, 1⟩, ⟨0x1D6DB, 0x1D6DB, 1⟩, ⟨0x1D6FB, 0x1D6FB, 1⟩, ⟨0x1D715, 0x1D715, 1⟩,
   ⟨0x1D735, 0x1D735, 1⟩, ⟨0x1D74F, 0x1D74F, 1⟩, ⟨0x1D76F, 0x1D76F, 1⟩, ⟨0x1D789, 0x1D789, 1⟩,
   ⟨0x1D7A9, 0x1D7A9, 1⟩, ⟨0x1D7C3, 0x1D7C3, 1⟩, ⟨0x1E2FF, 0x1E2FF, 1⟩, ⟨0x1EEF0, 0x1F12F, 1⟩,
   ⟨0x1F16D, 0x1F16F, 1⟩, ⟨0x1F1AD, 0x1F1AD, 1⟩, ⟨0x1F260, 0x1FBFA, 1⟩]

/-- The direction of a character. -/
def Direction.of (c : Char) : Direction :=
  if isNonspacingMark c then .mark
  else if rightToLeftLetters.contains c then .rightToLeft
  else if digits.contains c then .digit
  else if arabicDigits.contains c then .arabicDigit
  else if neutralChars.contains c then .neutral
  else .leftToRight

end BotBindings.Text
