import BotBindings.Text.CharSet

/-!
# Characters of names

What becomes of a character in the name of a host. Some are refused, some vanish, and many are other
ways to write a text that the name then has instead of them: capital letters, letters of special
forms, whole words in one character. Here such a text is known if a part of it is ASCII; any other
text can be left as it was written, because nothing about an address depends on it.
-/

namespace BotBindings.Address

open Text

/-- Characters that no name has. -/
def refusedChars : CharSet :=
  [⟨0x80, 0x9F, 1⟩, ⟨0x378, 0x379, 1⟩, ⟨0x380, 0x383, 1⟩, ⟨0x38B, 0x38B, 1⟩, ⟨0x38D, 0x38D, 1⟩,
   ⟨0x3A2, 0x3A2, 1⟩, ⟨0x530, 0x530, 1⟩, ⟨0x557, 0x558, 1⟩, ⟨0x58B, 0x58C, 1⟩, ⟨0x590, 0x590, 1⟩,
   ⟨0x5C8, 0x5CF, 1⟩, ⟨0x5EB, 0x5EE, 1⟩, ⟨0x5F5, 0x605, 1⟩, ⟨0x61C, 0x61C, 1⟩, ⟨0x6DD, 0x6DD, 1⟩,
   ⟨0x70E, 0x70F, 1⟩, ⟨0x74B, 0x74C, 1⟩, ⟨0x7B2, 0x7BF, 1⟩, ⟨0x7FB, 0x7FC, 1⟩, ⟨0x82E, 0x82F, 1⟩,
   ⟨0x83F, 0x83F, 1⟩, ⟨0x85C, 0x85D, 1⟩, ⟨0x85F, 0x85F, 1⟩, ⟨0x86B, 0x86F, 1⟩, ⟨0x890, 0x896, 1⟩,
   ⟨0x8E2, 0x8E2, 1⟩, ⟨0x984, 0x984, 1⟩, ⟨0x98D, 0x98E, 1⟩, ⟨0x991, 0x992, 1⟩, ⟨0x9A9, 0x9A9, 1⟩,
   ⟨0x9B1, 0x9B1, 1⟩, ⟨0x9B3, 0x9B5, 1⟩, ⟨0x9BA, 0x9BB, 1⟩, ⟨0x9C5, 0x9C6, 1⟩, ⟨0x9C9, 0x9CA, 1⟩,
   ⟨0x9CF, 0x9D6, 1⟩, ⟨0x9D8, 0x9DB, 1⟩, ⟨0x9DE, 0x9DE, 1⟩, ⟨0x9E4, 0x9E5, 1⟩, ⟨0x9FF, 0xA00, 1⟩,
   ⟨0xA04, 0xA04, 1⟩, ⟨0xA0B, 0xA0E, 1⟩, ⟨0xA11, 0xA12, 1⟩, ⟨0xA29, 0xA29, 1⟩, ⟨0xA31, 0xA31, 1⟩,
   ⟨0xA34, 0xA34, 1⟩, ⟨0xA37, 0xA37, 1⟩, ⟨0xA3A, 0xA3B, 1⟩, ⟨0xA3D, 0xA3D, 1⟩, ⟨0xA43, 0xA46, 1⟩,
   ⟨0xA49, 0xA4A, 1⟩, ⟨0xA4E, 0xA50, 1⟩, ⟨0xA52, 0xA58, 1⟩, ⟨0xA5D, 0xA5D, 1⟩, ⟨0xA5F, 0xA65, 1⟩,
   ⟨0xA77, 0xA80, 1⟩, ⟨0xA84, 0xA84, 1⟩, ⟨0xA8E, 0xA8E, 1⟩, ⟨0xA92, 0xA92, 1⟩, ⟨0xAA9, 0xAA9, 1⟩,
   ⟨0xAB1, 0xAB1, 1⟩, ⟨0xAB4, 0xAB4, 1⟩, ⟨0xABA, 0xABB, 1⟩, ⟨0xAC6, 0xAC6, 1⟩, ⟨0xACA, 0xACA, 1⟩,
   ⟨0xACE, 0xACF, 1⟩, ⟨0xAD1, 0xADF, 1⟩, ⟨0xAE4, 0xAE5, 1⟩, ⟨0xAF2, 0xAF8, 1⟩, ⟨0xB00, 0xB00, 1⟩,
   ⟨0xB04, 0xB04, 1⟩, ⟨0xB0D, 0xB0E, 1⟩, ⟨0xB11, 0xB12, 1⟩, ⟨0xB29, 0xB29, 1⟩, ⟨0xB31, 0xB31, 1⟩,
   ⟨0xB34, 0xB34, 1⟩, ⟨0xB3A, 0xB3B, 1⟩, ⟨0xB45, 0xB46, 1⟩, ⟨0xB49, 0xB4A, 1⟩, ⟨0xB4E, 0xB54, 1⟩,
   ⟨0xB58, 0xB5B, 1⟩, ⟨0xB5E, 0xB5E, 1⟩, ⟨0xB64, 0xB65, 1⟩, ⟨0xB78, 0xB81, 1⟩, ⟨0xB84, 0xB84, 1⟩,
   ⟨0xB8B, 0xB8D, 1⟩, ⟨0xB91, 0xB91, 1⟩, ⟨0xB96, 0xB98, 1⟩, ⟨0xB9B, 0xB9B, 1⟩, ⟨0xB9D, 0xB9D, 1⟩,
   ⟨0xBA0, 0xBA2, 1⟩, ⟨0xBA5, 0xBA7, 1⟩, ⟨0xBAB, 0xBAD, 1⟩, ⟨0xBBA, 0xBBD, 1⟩, ⟨0xBC3, 0xBC5, 1⟩,
   ⟨0xBC9, 0xBC9, 1⟩, ⟨0xBCE, 0xBCF, 1⟩, ⟨0xBD1, 0xBD6, 1⟩, ⟨0xBD8, 0xBE5, 1⟩, ⟨0xBFB, 0xBFF, 1⟩,
   ⟨0xC0D, 0xC0D, 1⟩, ⟨0xC11, 0xC11, 1⟩, ⟨0xC29, 0xC29, 1⟩, ⟨0xC3A, 0xC3B, 1⟩, ⟨0xC45, 0xC45, 1⟩,
   ⟨0xC49, 0xC49, 1⟩, ⟨0xC4E, 0xC54, 1⟩, ⟨0xC57, 0xC57, 1⟩, ⟨0xC5B, 0xC5B, 1⟩, ⟨0xC5E, 0xC5F, 1⟩,
   ⟨0xC64, 0xC65, 1⟩, ⟨0xC70, 0xC76, 1⟩, ⟨0xC8D, 0xC8D, 1⟩, ⟨0xC91, 0xC91, 1⟩, ⟨0xCA9, 0xCA9, 1⟩,
   ⟨0xCB4, 0xCB4, 1⟩, ⟨0xCBA, 0xCBB, 1⟩, ⟨0xCC5, 0xCC5, 1⟩, ⟨0xCC9, 0xCC9, 1⟩, ⟨0xCCE, 0xCD4, 1⟩,
   ⟨0xCD7, 0xCDB, 1⟩, ⟨0xCDF, 0xCDF, 1⟩, ⟨0xCE4, 0xCE5, 1⟩, ⟨0xCF0, 0xCF0, 1⟩, ⟨0xCF4, 0xCFF, 1⟩,
   ⟨0xD0D, 0xD0D, 1⟩, ⟨0xD11, 0xD11, 1⟩, ⟨0xD45, 0xD45, 1⟩, ⟨0xD49, 0xD49, 1⟩, ⟨0xD50, 0xD53, 1⟩,
   ⟨0xD64, 0xD65, 1⟩, ⟨0xD80, 0xD80, 1⟩, ⟨0xD84, 0xD84, 1⟩, ⟨0xD97, 0xD99, 1⟩, ⟨0xDB2, 0xDB2, 1⟩,
   ⟨0xDBC, 0xDBC, 1⟩, ⟨0xDBE, 0xDBF, 1⟩, ⟨0xDC7, 0xDC9, 1⟩, ⟨0xDCB, 0xDCE, 1⟩, ⟨0xDD5, 0xDD5, 1⟩,
   ⟨0xDD7, 0xDD7, 1⟩, ⟨0xDE0, 0xDE5, 1⟩, ⟨0xDF0, 0xDF1, 1⟩, ⟨0xDF5, 0xE00, 1⟩, ⟨0xE3B, 0xE3E, 1⟩,
   ⟨0xE5C, 0xE80, 1⟩, ⟨0xE83, 0xE83, 1⟩, ⟨0xE85, 0xE85, 1⟩, ⟨0xE8B, 0xE8B, 1⟩, ⟨0xEA4, 0xEA4, 1⟩,
   ⟨0xEA6, 0xEA6, 1⟩, ⟨0xEBE, 0xEBF, 1⟩, ⟨0xEC5, 0xEC5, 1⟩, ⟨0xEC7, 0xEC7, 1⟩, ⟨0xECF, 0xECF, 1⟩,
   ⟨0xEDA, 0xEDB, 1⟩, ⟨0xEE0, 0xEFF, 1⟩, ⟨0xF48, 0xF48, 1⟩, ⟨0xF6D, 0xF70, 1⟩, ⟨0xF98, 0xF98, 1⟩,
   ⟨0xFBD, 0xFBD, 1⟩, ⟨0xFCD, 0xFCD, 1⟩, ⟨0xFDB, 0xFFF, 1⟩, ⟨0x10C6, 0x10C6, 1⟩,
   ⟨0x10C8, 0x10CC, 1⟩, ⟨0x10CE, 0x10CF, 1⟩, ⟨0x1249, 0x1249, 1⟩, ⟨0x124E, 0x124F, 1⟩,
   ⟨0x1257, 0x1257, 1⟩, ⟨0x1259, 0x1259, 1⟩, ⟨0x125E, 0x125F, 1⟩, ⟨0x1289, 0x1289, 1⟩,
   ⟨0x128E, 0x128F, 1⟩, ⟨0x12B1, 0x12B1, 1⟩, ⟨0x12B6, 0x12B7, 1⟩, ⟨0x12BF, 0x12BF, 1⟩,
   ⟨0x12C1, 0x12C1, 1⟩, ⟨0x12C6, 0x12C7, 1⟩, ⟨0x12D7, 0x12D7, 1⟩, ⟨0x1311, 0x1311, 1⟩,
   ⟨0x1316, 0x1317, 1⟩, ⟨0x135B, 0x135C, 1⟩, ⟨0x137D, 0x137F, 1⟩, ⟨0x139A, 0x139F, 1⟩,
   ⟨0x13F6, 0x13F7, 1⟩, ⟨0x13FE, 0x13FF, 1⟩, ⟨0x1680, 0x1680, 1⟩, ⟨0x169D, 0x169F, 1⟩,
   ⟨0x16F9, 0x16FF, 1⟩, ⟨0x1716, 0x171E, 1⟩, ⟨0x1737, 0x173F, 1⟩, ⟨0x1754, 0x175F, 1⟩,
   ⟨0x176D, 0x176D, 1⟩, ⟨0x1771, 0x1771, 1⟩, ⟨0x1774, 0x177F, 1⟩, ⟨0x17DE, 0x17DF, 1⟩,
   ⟨0x17EA, 0x17EF, 1⟩, ⟨0x17FA, 0x17FF, 1⟩, ⟨0x181A, 0x181F, 1⟩, ⟨0x1879, 0x187F, 1⟩,
   ⟨0x18AB, 0x18AF, 1⟩, ⟨0x18F6, 0x18FF, 1⟩, ⟨0x191F, 0x191F, 1⟩, ⟨0x192C, 0x192F, 1⟩,
   ⟨0x193C, 0x193F, 1⟩, ⟨0x1941, 0x1943, 1⟩, ⟨0x196E, 0x196F, 1⟩, ⟨0x1975, 0x197F, 1⟩,
   ⟨0x19AC, 0x19AF, 1⟩, ⟨0x19CA, 0x19CF, 1⟩, ⟨0x19DB, 0x19DD, 1⟩, ⟨0x1A1C, 0x1A1D, 1⟩,
   ⟨0x1A5F, 0x1A5F, 1⟩, ⟨0x1A7D, 0x1A7E, 1⟩, ⟨0x1A8A, 0x1A8F, 1⟩, ⟨0x1A9A, 0x1A9F, 1⟩,
   ⟨0x1AAE, 0x1AAF, 1⟩, ⟨0x1ADE, 0x1ADF, 1⟩, ⟨0x1AEC, 0x1AFF, 1⟩, ⟨0x1B4D, 0x1B4D, 1⟩,
   ⟨0x1BF4, 0x1BFB, 1⟩, ⟨0x1C38, 0x1C3A, 1⟩, ⟨0x1C4A, 0x1C4C, 1⟩, ⟨0x1C8B, 0x1C8F, 1⟩,
   ⟨0x1CBB, 0x1CBC, 1⟩, ⟨0x1CC8, 0x1CCF, 1⟩, ⟨0x1CFB, 0x1CFF, 1⟩, ⟨0x1F16, 0x1F17, 1⟩,
   ⟨0x1F1E, 0x1F1F, 1⟩, ⟨0x1F46, 0x1F47, 1⟩, ⟨0x1F4E, 0x1F4F, 1⟩, ⟨0x1F58, 0x1F5E, 2⟩,
   ⟨0x1F7E, 0x1F7F, 1⟩, ⟨0x1FB5, 0x1FB5, 1⟩, ⟨0x1FC5, 0x1FC5, 1⟩, ⟨0x1FD4, 0x1FD5, 1⟩,
   ⟨0x1FDC, 0x1FDC, 1⟩, ⟨0x1FF0, 0x1FF1, 1⟩, ⟨0x1FF5, 0x1FF5, 1⟩, ⟨0x1FFF, 0x1FFF, 1⟩,
   ⟨0x200E, 0x200F, 1⟩, ⟨0x2024, 0x2026, 1⟩, ⟨0x2028, 0x202E, 1⟩, ⟨0x2065, 0x2069, 1⟩,
   ⟨0x2072, 0x2073, 1⟩, ⟨0x208F, 0x208F, 1⟩, ⟨0x209D, 0x209F, 1⟩, ⟨0x20C2, 0x20CF, 1⟩,
   ⟨0x20F1, 0x20FF, 1⟩, ⟨0x218C, 0x218F, 1⟩, ⟨0x242A, 0x243F, 1⟩, ⟨0x244B, 0x245F, 1⟩,
   ⟨0x2488, 0x249B, 1⟩, ⟨0x2B74, 0x2B75, 1⟩, ⟨0x2CF4, 0x2CF8, 1⟩, ⟨0x2D26, 0x2D26, 1⟩,
   ⟨0x2D28, 0x2D2C, 1⟩, ⟨0x2D2E, 0x2D2F, 1⟩, ⟨0x2D68, 0x2D6E, 1⟩, ⟨0x2D71, 0x2D7E, 1⟩,
   ⟨0x2D97, 0x2D9F, 1⟩, ⟨0x2DA7, 0x2DA7, 1⟩, ⟨0x2DAF, 0x2DAF, 1⟩, ⟨0x2DB7, 0x2DB7, 1⟩,
   ⟨0x2DBF, 0x2DBF, 1⟩, ⟨0x2DC7, 0x2DC7, 1⟩, ⟨0x2DCF, 0x2DCF, 1⟩, ⟨0x2DD7, 0x2DD7, 1⟩,
   ⟨0x2DDF, 0x2DDF, 1⟩, ⟨0x2E5E, 0x2E7F, 1⟩, ⟨0x2E9A, 0x2E9A, 1⟩, ⟨0x2EF4, 0x2EFF, 1⟩,
   ⟨0x2FD6, 0x2FFF, 1⟩, ⟨0x3040, 0x3040, 1⟩, ⟨0x3097, 0x3098, 1⟩, ⟨0x3100, 0x3104, 1⟩,
   ⟨0x3130, 0x3130, 1⟩, ⟨0x318F, 0x318F, 1⟩, ⟨0x31E6, 0x31EF, 1⟩, ⟨0x321F, 0x321F, 1⟩,
   ⟨0x33C2, 0x33C2, 1⟩, ⟨0x33C7, 0x33C7, 1⟩, ⟨0x33D8, 0x33D8, 1⟩, ⟨0xA48D, 0xA48F, 1⟩,
   ⟨0xA4C7, 0xA4CF, 1⟩, ⟨0xA62C, 0xA63F, 1⟩, ⟨0xA6F8, 0xA6FF, 1⟩, ⟨0xA7DD, 0xA7F0, 1⟩,
   ⟨0xA82D, 0xA82F, 1⟩, ⟨0xA83A, 0xA83F, 1⟩, ⟨0xA878, 0xA87F, 1⟩, ⟨0xA8C6, 0xA8CD, 1⟩,
   ⟨0xA8DA, 0xA8DF, 1⟩, ⟨0xA954, 0xA95E, 1⟩, ⟨0xA97D, 0xA97F, 1⟩, ⟨0xA9CE, 0xA9CE, 1⟩,
   ⟨0xA9DA, 0xA9DD, 1⟩, ⟨0xA9FF, 0xA9FF, 1⟩, ⟨0xAA37, 0xAA3F, 1⟩, ⟨0xAA4E, 0xAA4F, 1⟩,
   ⟨0xAA5A, 0xAA5B, 1⟩, ⟨0xAAC3, 0xAADA, 1⟩, ⟨0xAAF7, 0xAB00, 1⟩, ⟨0xAB07, 0xAB08, 1⟩,
   ⟨0xAB0F, 0xAB10, 1⟩, ⟨0xAB17, 0xAB1F, 1⟩, ⟨0xAB27, 0xAB27, 1⟩, ⟨0xAB2F, 0xAB2F, 1⟩,
   ⟨0xAB6C, 0xAB6F, 1⟩, ⟨0xABEE, 0xABEF, 1⟩, ⟨0xABFA, 0xABFF, 1⟩, ⟨0xD7A4, 0xD7AF, 1⟩,
   ⟨0xD7C7, 0xD7CA, 1⟩, ⟨0xD7FC, 0xF8FF, 1⟩, ⟨0xFA6E, 0xFA6F, 1⟩, ⟨0xFADA, 0xFAFF, 1⟩,
   ⟨0xFB07, 0xFB12, 1⟩, ⟨0xFB18, 0xFB1C, 1⟩, ⟨0xFB37, 0xFB37, 1⟩, ⟨0xFB3D, 0xFB3D, 1⟩,
   ⟨0xFB3F, 0xFB3F, 1⟩, ⟨0xFB42, 0xFB42, 1⟩, ⟨0xFB45, 0xFB45, 1⟩, ⟨0xFDD0, 0xFDEF, 1⟩,
   ⟨0xFE12, 0xFE12, 1⟩, ⟨0xFE19, 0xFE1F, 1⟩, ⟨0xFE30, 0xFE30, 1⟩, ⟨0xFE52, 0xFE53, 1⟩,
   ⟨0xFE67, 0xFE67, 1⟩, ⟨0xFE6C, 0xFE6F, 1⟩, ⟨0xFE75, 0xFE75, 1⟩, ⟨0xFEFD, 0xFEFE, 1⟩,
   ⟨0xFF00, 0xFF00, 1⟩, ⟨0xFFBF, 0xFFC1, 1⟩, ⟨0xFFC8, 0xFFC9, 1⟩, ⟨0xFFD0, 0xFFD1, 1⟩,
   ⟨0xFFD8, 0xFFD9, 1⟩, ⟨0xFFDD, 0xFFDF, 1⟩, ⟨0xFFE7, 0xFFE7, 1⟩, ⟨0xFFEF, 0xFFFF, 1⟩,
   ⟨0x1000C, 0x1000C, 1⟩, ⟨0x10027, 0x10027, 1⟩, ⟨0x1003B, 0x1003B, 1⟩, ⟨0x1003E, 0x1003E, 1⟩,
   ⟨0x1004E, 0x1004F, 1⟩, ⟨0x1005E, 0x1007F, 1⟩, ⟨0x100FB, 0x100FF, 1⟩, ⟨0x10103, 0x10106, 1⟩,
   ⟨0x10134, 0x10136, 1⟩, ⟨0x1018F, 0x1018F, 1⟩, ⟨0x1019D, 0x1019F, 1⟩, ⟨0x101A1, 0x101CF, 1⟩,
   ⟨0x101FE, 0x1027F, 1⟩, ⟨0x1029D, 0x1029F, 1⟩, ⟨0x102D1, 0x102DF, 1⟩, ⟨0x102FC, 0x102FF, 1⟩,
   ⟨0x10324, 0x1032C, 1⟩, ⟨0x1034B, 0x1034F, 1⟩, ⟨0x1037B, 0x1037F, 1⟩, ⟨0x1039E, 0x1039E, 1⟩,
   ⟨0x103C4, 0x103C7, 1⟩, ⟨0x103D6, 0x103FF, 1⟩, ⟨0x1049E, 0x1049F, 1⟩, ⟨0x104AA, 0x104AF, 1⟩,
   ⟨0x104D4, 0x104D7, 1⟩, ⟨0x104FC, 0x104FF, 1⟩, ⟨0x10528, 0x1052F, 1⟩, ⟨0x10564, 0x1056E, 1⟩,
   ⟨0x1057B, 0x1057B, 1⟩, ⟨0x1058B, 0x1058B, 1⟩, ⟨0x10593, 0x10593, 1⟩, ⟨0x10596, 0x10596, 1⟩,
   ⟨0x105A2, 0x105A2, 1⟩, ⟨0x105B2, 0x105B2, 1⟩, ⟨0x105BA, 0x105BA, 1⟩, ⟨0x105BD, 0x105BF, 1⟩,
   ⟨0x105F4, 0x105FF, 1⟩, ⟨0x10737, 0x1073F, 1⟩, ⟨0x10756, 0x1075F, 1⟩, ⟨0x10768, 0x1077F, 1⟩,
   ⟨0x10786, 0x10786, 1⟩, ⟨0x107B1, 0x107B1, 1⟩, ⟨0x107BB, 0x107FF, 1⟩, ⟨0x10806, 0x10807, 1⟩,
   ⟨0x10809, 0x10809, 1⟩, ⟨0x10836, 0x10836, 1⟩, ⟨0x10839, 0x1083B, 1⟩, ⟨0x1083D, 0x1083E, 1⟩,
   ⟨0x10856, 0x10856, 1⟩, ⟨0x1089F, 0x108A6, 1⟩, ⟨0x108B0, 0x108DF, 1⟩, ⟨0x108F3, 0x108F3, 1⟩,
   ⟨0x108F6, 0x108FA, 1⟩, ⟨0x1091C, 0x1091E, 1⟩, ⟨0x1093A, 0x1093E, 1⟩, ⟨0x1095A, 0x1097F, 1⟩,
   ⟨0x109B8, 0x109BB, 1⟩, ⟨0x109D0, 0x109D1, 1⟩, ⟨0x10A04, 0x10A04, 1⟩, ⟨0x10A07, 0x10A0B, 1⟩,
   ⟨0x10A14, 0x10A14, 1⟩, ⟨0x10A18, 0x10A18, 1⟩, ⟨0x10A36, 0x10A37, 1⟩, ⟨0x10A3B, 0x10A3E, 1⟩,
   ⟨0x10A49, 0x10A4F, 1⟩, ⟨0x10A59, 0x10A5F, 1⟩, ⟨0x10AA0, 0x10ABF, 1⟩, ⟨0x10AE7, 0x10AEA, 1⟩,
   ⟨0x10AF7, 0x10AFF, 1⟩, ⟨0x10B36, 0x10B38, 1⟩, ⟨0x10B56, 0x10B57, 1⟩, ⟨0x10B73, 0x10B77, 1⟩,
   ⟨0x10B92, 0x10B98, 1⟩, ⟨0x10B9D, 0x10BA8, 1⟩, ⟨0x10BB0, 0x10BFF, 1⟩, ⟨0x10C49, 0x10C7F, 1⟩,
   ⟨0x10CB3, 0x10CBF, 1⟩, ⟨0x10CF3, 0x10CF9, 1⟩, ⟨0x10D28, 0x10D2F, 1⟩, ⟨0x10D3A, 0x10D3F, 1⟩,
   ⟨0x10D66, 0x10D68, 1⟩, ⟨0x10D86, 0x10D8D, 1⟩, ⟨0x10D90, 0x10E5F, 1⟩, ⟨0x10E7F, 0x10E7F, 1⟩,
   ⟨0x10EAA, 0x10EAA, 1⟩, ⟨0x10EAE, 0x10EAF, 1⟩, ⟨0x10EB2, 0x10EC1, 1⟩, ⟨0x10EC8, 0x10ECF, 1⟩,
   ⟨0x10ED9, 0x10EF9, 1⟩, ⟨0x10F28, 0x10F2F, 1⟩, ⟨0x10F5A, 0x10F6F, 1⟩, ⟨0x10F8A, 0x10FAF, 1⟩,
   ⟨0x10FCC, 0x10FDF, 1⟩, ⟨0x10FF7, 0x10FFF, 1⟩, ⟨0x1104E, 0x11051, 1⟩, ⟨0x11076, 0x1107E, 1⟩,
   ⟨0x110BD, 0x110BD, 1⟩, ⟨0x110C3, 0x110CF, 1⟩, ⟨0x110E9, 0x110EF, 1⟩, ⟨0x110FA, 0x110FF, 1⟩,
   ⟨0x11135, 0x11135, 1⟩, ⟨0x11148, 0x1114F, 1⟩, ⟨0x11177, 0x1117F, 1⟩, ⟨0x111E0, 0x111E0, 1⟩,
   ⟨0x111F5, 0x111FF, 1⟩, ⟨0x11212, 0x11212, 1⟩, ⟨0x11242, 0x1127F, 1⟩, ⟨0x11287, 0x11287, 1⟩,
   ⟨0x11289, 0x11289, 1⟩, ⟨0x1128E, 0x1128E, 1⟩, ⟨0x1129E, 0x1129E, 1⟩, ⟨0x112AA, 0x112AF, 1⟩,
   ⟨0x112EB, 0x112EF, 1⟩, ⟨0x112FA, 0x112FF, 1⟩, ⟨0x11304, 0x11304, 1⟩, ⟨0x1130D, 0x1130E, 1⟩,
   ⟨0x11311, 0x11312, 1⟩, ⟨0x11329, 0x11329, 1⟩, ⟨0x11331, 0x11331, 1⟩, ⟨0x11334, 0x11334, 1⟩,
   ⟨0x1133A, 0x1133A, 1⟩, ⟨0x11345, 0x11346, 1⟩, ⟨0x11349, 0x1134A, 1⟩, ⟨0x1134E, 0x1134F, 1⟩,
   ⟨0x11351, 0x11356, 1⟩, ⟨0x11358, 0x1135C, 1⟩, ⟨0x11364, 0x11365, 1⟩, ⟨0x1136D, 0x1136F, 1⟩,
   ⟨0x11375, 0x1137F, 1⟩, ⟨0x1138A, 0x1138A, 1⟩, ⟨0x1138C, 0x1138D, 1⟩, ⟨0x1138F, 0x1138F, 1⟩,
   ⟨0x113B6, 0x113B6, 1⟩, ⟨0x113C1, 0x113C1, 1⟩, ⟨0x113C3, 0x113C4, 1⟩, ⟨0x113C6, 0x113C6, 1⟩,
   ⟨0x113CB, 0x113CB, 1⟩, ⟨0x113D6, 0x113D6, 1⟩, ⟨0x113D9, 0x113E0, 1⟩, ⟨0x113E3, 0x113FF, 1⟩,
   ⟨0x1145C, 0x1145C, 1⟩, ⟨0x11462, 0x1147F, 1⟩, ⟨0x114C8, 0x114CF, 1⟩, ⟨0x114DA, 0x1157F, 1⟩,
   ⟨0x115B6, 0x115B7, 1⟩, ⟨0x115DE, 0x115FF, 1⟩, ⟨0x11645, 0x1164F, 1⟩, ⟨0x1165A, 0x1165F, 1⟩,
   ⟨0x1166D, 0x1167F, 1⟩, ⟨0x116BA, 0x116BF, 1⟩, ⟨0x116CA, 0x116CF, 1⟩, ⟨0x116E4, 0x116FF, 1⟩,
   ⟨0x1171B, 0x1171C, 1⟩, ⟨0x1172C, 0x1172F, 1⟩, ⟨0x11747, 0x117FF, 1⟩, ⟨0x1183C, 0x1189F, 1⟩,
   ⟨0x118F3, 0x118FE, 1⟩, ⟨0x11907, 0x11908, 1⟩, ⟨0x1190A, 0x1190B, 1⟩, ⟨0x11914, 0x11914, 1⟩,
   ⟨0x11917, 0x11917, 1⟩, ⟨0x11936, 0x11936, 1⟩, ⟨0x11939, 0x1193A, 1⟩, ⟨0x11947, 0x1194F, 1⟩,
   ⟨0x1195A, 0x1199F, 1⟩, ⟨0x119A8, 0x119A9, 1⟩, ⟨0x119D8, 0x119D9, 1⟩, ⟨0x119E5, 0x119FF, 1⟩,
   ⟨0x11A48, 0x11A4F, 1⟩, ⟨0x11AA3, 0x11AAF, 1⟩, ⟨0x11AF9, 0x11AFF, 1⟩, ⟨0x11B0A, 0x11B5F, 1⟩,
   ⟨0x11B68, 0x11BBF, 1⟩, ⟨0x11BE2, 0x11BEF, 1⟩, ⟨0x11BFA, 0x11BFF, 1⟩, ⟨0x11C09, 0x11C09, 1⟩,
   ⟨0x11C37, 0x11C37, 1⟩, ⟨0x11C46, 0x11C4F, 1⟩, ⟨0x11C6D, 0x11C6F, 1⟩, ⟨0x11C90, 0x11C91, 1⟩,
   ⟨0x11CA8, 0x11CA8, 1⟩, ⟨0x11CB7, 0x11CFF, 1⟩, ⟨0x11D07, 0x11D07, 1⟩, ⟨0x11D0A, 0x11D0A, 1⟩,
   ⟨0x11D37, 0x11D39, 1⟩, ⟨0x11D3B, 0x11D3B, 1⟩, ⟨0x11D3E, 0x11D3E, 1⟩, ⟨0x11D48, 0x11D4F, 1⟩,
   ⟨0x11D5A, 0x11D5F, 1⟩, ⟨0x11D66, 0x11D66, 1⟩, ⟨0x11D69, 0x11D69, 1⟩, ⟨0x11D8F, 0x11D8F, 1⟩,
   ⟨0x11D92, 0x11D92, 1⟩, ⟨0x11D99, 0x11D9F, 1⟩, ⟨0x11DAA, 0x11DAF, 1⟩, ⟨0x11DDC, 0x11DDF, 1⟩,
   ⟨0x11DEA, 0x11EDF, 1⟩, ⟨0x11EF9, 0x11EFF, 1⟩, ⟨0x11F11, 0x11F11, 1⟩, ⟨0x11F3B, 0x11F3D, 1⟩,
   ⟨0x11F5B, 0x11FAF, 1⟩, ⟨0x11FB1, 0x11FBF, 1⟩, ⟨0x11FF2, 0x11FFE, 1⟩, ⟨0x1239A, 0x123FF, 1⟩,
   ⟨0x1246F, 0x1246F, 1⟩, ⟨0x12475, 0x1247F, 1⟩, ⟨0x12544, 0x12F8F, 1⟩, ⟨0x12FF3, 0x12FFF, 1⟩,
   ⟨0x13430, 0x1343F, 1⟩, ⟨0x13456, 0x1345F, 1⟩, ⟨0x143FB, 0x143FF, 1⟩, ⟨0x14647, 0x160FF, 1⟩,
   ⟨0x1613A, 0x167FF, 1⟩, ⟨0x16A39, 0x16A3F, 1⟩, ⟨0x16A5F, 0x16A5F, 1⟩, ⟨0x16A6A, 0x16A6D, 1⟩,
   ⟨0x16ABF, 0x16ABF, 1⟩, ⟨0x16ACA, 0x16ACF, 1⟩, ⟨0x16AEE, 0x16AEF, 1⟩, ⟨0x16AF6, 0x16AFF, 1⟩,
   ⟨0x16B46, 0x16B4F, 1⟩, ⟨0x16B5A, 0x16B5A, 1⟩, ⟨0x16B62, 0x16B62, 1⟩, ⟨0x16B78, 0x16B7C, 1⟩,
   ⟨0x16B90, 0x16D3F, 1⟩, ⟨0x16D7A, 0x16E3F, 1⟩, ⟨0x16E9B, 0x16E9F, 1⟩, ⟨0x16EB9, 0x16EBA, 1⟩,
   ⟨0x16ED4, 0x16EFF, 1⟩, ⟨0x16F4B, 0x16F4E, 1⟩, ⟨0x16F88, 0x16F8E, 1⟩, ⟨0x16FA0, 0x16FDF, 1⟩,
   ⟨0x16FE5, 0x16FEF, 1⟩, ⟨0x16FF7, 0x16FFF, 1⟩, ⟨0x18CD6, 0x18CFE, 1⟩, ⟨0x18D1F, 0x18D7F, 1⟩,
   ⟨0x18DF3, 0x1AFEF, 1⟩, ⟨0x1AFF4, 0x1AFF4, 1⟩, ⟨0x1AFFC, 0x1AFFC, 1⟩, ⟨0x1AFFF, 0x1AFFF, 1⟩,
   ⟨0x1B123, 0x1B131, 1⟩, ⟨0x1B133, 0x1B14F, 1⟩, ⟨0x1B153, 0x1B154, 1⟩, ⟨0x1B156, 0x1B163, 1⟩,
   ⟨0x1B168, 0x1B16F, 1⟩, ⟨0x1B2FC, 0x1BBFF, 1⟩, ⟨0x1BC6B, 0x1BC6F, 1⟩, ⟨0x1BC7D, 0x1BC7F, 1⟩,
   ⟨0x1BC89, 0x1BC8F, 1⟩, ⟨0x1BC9A, 0x1BC9B, 1⟩, ⟨0x1BCA4, 0x1CBFF, 1⟩, ⟨0x1CCFD, 0x1CCFF, 1⟩,
   ⟨0x1CEB4, 0x1CEB9, 1⟩, ⟨0x1CED1, 0x1CEDF, 1⟩, ⟨0x1CEF1, 0x1CEFF, 1⟩, ⟨0x1CF2E, 0x1CF2F, 1⟩,
   ⟨0x1CF47, 0x1CF4F, 1⟩, ⟨0x1CFC4, 0x1CFFF, 1⟩, ⟨0x1D0F6, 0x1D0FF, 1⟩, ⟨0x1D127, 0x1D128, 1⟩,
   ⟨0x1D1EB, 0x1D1FF, 1⟩, ⟨0x1D246, 0x1D2BF, 1⟩, ⟨0x1D2D4, 0x1D2DF, 1⟩, ⟨0x1D2F4, 0x1D2FF, 1⟩,
   ⟨0x1D357, 0x1D35F, 1⟩, ⟨0x1D379, 0x1D3FF, 1⟩, ⟨0x1D455, 0x1D455, 1⟩, ⟨0x1D49D, 0x1D49D, 1⟩,
   ⟨0x1D4A0, 0x1D4A1, 1⟩, ⟨0x1D4A3, 0x1D4A4, 1⟩, ⟨0x1D4A7, 0x1D4A8, 1⟩, ⟨0x1D4AD, 0x1D4AD, 1⟩,
   ⟨0x1D4BA, 0x1D4BA, 1⟩, ⟨0x1D4BC, 0x1D4BC, 1⟩, ⟨0x1D4C4, 0x1D4C4, 1⟩, ⟨0x1D506, 0x1D506, 1⟩,
   ⟨0x1D50B, 0x1D50C, 1⟩, ⟨0x1D515, 0x1D515, 1⟩, ⟨0x1D51D, 0x1D51D, 1⟩, ⟨0x1D53A, 0x1D53A, 1⟩,
   ⟨0x1D53F, 0x1D53F, 1⟩, ⟨0x1D545, 0x1D545, 1⟩, ⟨0x1D547, 0x1D549, 1⟩, ⟨0x1D551, 0x1D551, 1⟩,
   ⟨0x1D6A6, 0x1D6A7, 1⟩, ⟨0x1D7CC, 0x1D7CD, 1⟩, ⟨0x1DA8C, 0x1DA9A, 1⟩, ⟨0x1DAA0, 0x1DAA0, 1⟩,
   ⟨0x1DAB0, 0x1DEFF, 1⟩, ⟨0x1DF1F, 0x1DF24, 1⟩, ⟨0x1DF2B, 0x1DFFF, 1⟩, ⟨0x1E007, 0x1E007, 1⟩,
   ⟨0x1E019, 0x1E01A, 1⟩, ⟨0x1E022, 0x1E022, 1⟩, ⟨0x1E025, 0x1E025, 1⟩, ⟨0x1E02B, 0x1E02F, 1⟩,
   ⟨0x1E06E, 0x1E08E, 1⟩, ⟨0x1E090, 0x1E0FF, 1⟩, ⟨0x1E12D, 0x1E12F, 1⟩, ⟨0x1E13E, 0x1E13F, 1⟩,
   ⟨0x1E14A, 0x1E14D, 1⟩, ⟨0x1E150, 0x1E28F, 1⟩, ⟨0x1E2AF, 0x1E2BF, 1⟩, ⟨0x1E2FA, 0x1E2FE, 1⟩,
   ⟨0x1E300, 0x1E4CF, 1⟩, ⟨0x1E4FA, 0x1E5CF, 1⟩, ⟨0x1E5FB, 0x1E5FE, 1⟩, ⟨0x1E600, 0x1E6BF, 1⟩,
   ⟨0x1E6DF, 0x1E6DF, 1⟩, ⟨0x1E6F6, 0x1E6FD, 1⟩, ⟨0x1E700, 0x1E7DF, 1⟩, ⟨0x1E7E7, 0x1E7E7, 1⟩,
   ⟨0x1E7EC, 0x1E7EC, 1⟩, ⟨0x1E7EF, 0x1E7EF, 1⟩, ⟨0x1E7FF, 0x1E7FF, 1⟩, ⟨0x1E8C5, 0x1E8C6, 1⟩,
   ⟨0x1E8D7, 0x1E8FF, 1⟩, ⟨0x1E94C, 0x1E94F, 1⟩, ⟨0x1E95A, 0x1E95D, 1⟩, ⟨0x1E960, 0x1EC70, 1⟩,
   ⟨0x1ECB5, 0x1ED00, 1⟩, ⟨0x1ED3E, 0x1EDFF, 1⟩, ⟨0x1EE04, 0x1EE04, 1⟩, ⟨0x1EE20, 0x1EE20, 1⟩,
   ⟨0x1EE23, 0x1EE23, 1⟩, ⟨0x1EE25, 0x1EE26, 1⟩, ⟨0x1EE28, 0x1EE28, 1⟩, ⟨0x1EE33, 0x1EE33, 1⟩,
   ⟨0x1EE38, 0x1EE38, 1⟩, ⟨0x1EE3A, 0x1EE3A, 1⟩, ⟨0x1EE3C, 0x1EE41, 1⟩, ⟨0x1EE43, 0x1EE46, 1⟩,
   ⟨0x1EE48, 0x1EE4C, 2⟩, ⟨0x1EE50, 0x1EE50, 1⟩, ⟨0x1EE53, 0x1EE53, 1⟩, ⟨0x1EE55, 0x1EE56, 1⟩,
   ⟨0x1EE58, 0x1EE60, 2⟩, ⟨0x1EE63, 0x1EE63, 1⟩, ⟨0x1EE65, 0x1EE66, 1⟩, ⟨0x1EE6B, 0x1EE6B, 1⟩,
   ⟨0x1EE73, 0x1EE73, 1⟩, ⟨0x1EE78, 0x1EE78, 1⟩, ⟨0x1EE7D, 0x1EE7D, 1⟩, ⟨0x1EE7F, 0x1EE7F, 1⟩,
   ⟨0x1EE8A, 0x1EE8A, 1⟩, ⟨0x1EE9C, 0x1EEA0, 1⟩, ⟨0x1EEA4, 0x1EEA4, 1⟩, ⟨0x1EEAA, 0x1EEAA, 1⟩,
   ⟨0x1EEBC, 0x1EEEF, 1⟩, ⟨0x1EEF2, 0x1EFFF, 1⟩, ⟨0x1F02C, 0x1F02F, 1⟩, ⟨0x1F094, 0x1F09F, 1⟩,
   ⟨0x1F0AF, 0x1F0B0, 1⟩, ⟨0x1F0C0, 0x1F0C0, 1⟩, ⟨0x1F0D0, 0x1F0D0, 1⟩, ⟨0x1F0F6, 0x1F100, 1⟩,
   ⟨0x1F1AE, 0x1F1E5, 1⟩, ⟨0x1F203, 0x1F20F, 1⟩, ⟨0x1F23C, 0x1F23F, 1⟩, ⟨0x1F249, 0x1F24F, 1⟩,
   ⟨0x1F252, 0x1F25F, 1⟩, ⟨0x1F266, 0x1F2FF, 1⟩, ⟨0x1F6D9, 0x1F6DB, 1⟩, ⟨0x1F6ED, 0x1F6EF, 1⟩,
   ⟨0x1F6FD, 0x1F6FF, 1⟩, ⟨0x1F7DA, 0x1F7DF, 1⟩, ⟨0x1F7EC, 0x1F7EF, 1⟩, ⟨0x1F7F1, 0x1F7FF, 1⟩,
   ⟨0x1F80C, 0x1F80F, 1⟩, ⟨0x1F848, 0x1F84F, 1⟩, ⟨0x1F85A, 0x1F85F, 1⟩, ⟨0x1F888, 0x1F88F, 1⟩,
   ⟨0x1F8AE, 0x1F8AF, 1⟩, ⟨0x1F8BC, 0x1F8BF, 1⟩, ⟨0x1F8C2, 0x1F8CF, 1⟩, ⟨0x1F8D9, 0x1F8FF, 1⟩,
   ⟨0x1FA58, 0x1FA5F, 1⟩, ⟨0x1FA6E, 0x1FA6F, 1⟩, ⟨0x1FA7D, 0x1FA7F, 1⟩, ⟨0x1FA8B, 0x1FA8D, 1⟩,
   ⟨0x1FAC7, 0x1FAC7, 1⟩, ⟨0x1FAC9, 0x1FACC, 1⟩, ⟨0x1FADD, 0x1FADE, 1⟩, ⟨0x1FAEB, 0x1FAEE, 1⟩,
   ⟨0x1FAF9, 0x1FAFF, 1⟩, ⟨0x1FB93, 0x1FB93, 1⟩, ⟨0x1FBFB, 0x1FFFF, 1⟩, ⟨0x2A6E0, 0x2A6FF, 1⟩,
   ⟨0x2B81E, 0x2B81F, 1⟩, ⟨0x2CEAE, 0x2CEAF, 1⟩, ⟨0x2EBE1, 0x2EBEF, 1⟩, ⟨0x2EE5E, 0x2F7FF, 1⟩,
   ⟨0x2FA1E, 0x2FFFF, 1⟩, ⟨0x3134B, 0x3134F, 1⟩, ⟨0x3347A, 0xE00FF, 1⟩, ⟨0xE01F0, 0x10FFFF, 1⟩]

/-- Characters that vanish from a name. -/
def vanishingChars : CharSet :=
  [⟨0xAD, 0xAD, 1⟩, ⟨0x34F, 0x34F, 1⟩, ⟨0x115F, 0x1160, 1⟩, ⟨0x17B4, 0x17B5, 1⟩,
   ⟨0x180B, 0x180F, 1⟩, ⟨0x200B, 0x200B, 1⟩, ⟨0x2060, 0x2064, 1⟩, ⟨0x206A, 0x206F, 1⟩,
   ⟨0x3164, 0x3164, 1⟩, ⟨0xFE00, 0xFE0F, 1⟩, ⟨0xFEFF, 0xFEFF, 1⟩, ⟨0xFFA0, 0xFFA0, 1⟩,
   ⟨0x1BCA0, 0x1BCA3, 1⟩, ⟨0x1D173, 0x1D17A, 1⟩, ⟨0xE0100, 0xE01EF, 1⟩]

/-- Characters in a row, each of which stands for one ASCII character. -/
structure CharForms where
  /-- The first of them. -/
  first : Nat
  /-- What they stand for. -/
  forms : String

/-- Characters that stand for one ASCII character. -/
def asciiForms : List CharForms :=
  [⟨0xA0, " "⟩, ⟨0xAA, "a"⟩, ⟨0xB2, "23"⟩, ⟨0xB9, "1o"⟩, ⟨0x17F, "s"⟩, ⟨0x2B0, "h"⟩, ⟨0x2B2, "jr"⟩,
   ⟨0x2B7, "wy"⟩, ⟨0x2E1, "lsx"⟩, ⟨0x37E, ";"⟩, ⟨0x1D2C, "a"⟩, ⟨0x1D2E, "b"⟩, ⟨0x1D30, "de"⟩,
   ⟨0x1D33, "ghijklmn"⟩, ⟨0x1D3C, "o"⟩, ⟨0x1D3E, "prtuwa"⟩, ⟨0x1D47, "bde"⟩, ⟨0x1D4D, "g"⟩,
   ⟨0x1D4F, "km"⟩, ⟨0x1D52, "o"⟩, ⟨0x1D56, "ptu"⟩, ⟨0x1D5B, "v"⟩, ⟨0x1D62, "iruv"⟩, ⟨0x1D9C, "c"⟩,
   ⟨0x1DA0, "f"⟩, ⟨0x1DBB, "z"⟩, ⟨0x1FEF, "`"⟩, ⟨0x2000, "           "⟩, ⟨0x202F, " "⟩,
   ⟨0x205F, " "⟩, ⟨0x2070, "0i"⟩, ⟨0x2074, "456789+"⟩, ⟨0x207C, "=()n0123456789+"⟩,
   ⟨0x208C, "=()"⟩, ⟨0x2090, "aeox"⟩, ⟨0x2095, "hklmnpst"⟩, ⟨0x2102, "c"⟩, ⟨0x210A, "ghhhh"⟩,
   ⟨0x2110, "iill"⟩, ⟨0x2115, "n"⟩, ⟨0x2119, "pqrrr"⟩, ⟨0x2124, "z"⟩, ⟨0x2128, "z"⟩, ⟨0x212A, "k"⟩,
   ⟨0x212C, "bc"⟩, ⟨0x212F, "eef"⟩, ⟨0x2133, "mo"⟩, ⟨0x2139, "i"⟩, ⟨0x2145, "ddeij"⟩,
   ⟨0x2160, "i"⟩, ⟨0x2164, "v"⟩, ⟨0x2169, "x"⟩, ⟨0x216C, "lcdmi"⟩, ⟨0x2174, "v"⟩, ⟨0x2179, "x"⟩,
   ⟨0x217C, "lcdm"⟩, ⟨0x2460, "123456789"⟩,
   ⟨0x24B6, "abcdefghijklmnopqrstuvwxyzabcdefghijklmnopqrstuvwxyz0"⟩, ⟨0x2C7C, "jv"⟩,
   ⟨0x3000, " "⟩, ⟨0x3002, "."⟩, ⟨0xA7F1, "scfq"⟩, ⟨0xFB29, "+"⟩, ⟨0xFE10, ","⟩, ⟨0xFE13, ":;!?"⟩,
   ⟨0xFE33, "__()\x7b\x7d"⟩, ⟨0xFE47, "[]"⟩, ⟨0xFE4D, "___,"⟩, ⟨0xFE54, ";:?!"⟩,
   ⟨0xFE59, "()\x7b\x7d"⟩, ⟨0xFE5F, "#&*+-<>="⟩, ⟨0xFE68, "\\$%@"⟩,
   ⟨0xFF01, "!\"#$%&'()*+,-./0123456789:;<=>?@abcdefghijklmnopqrstuvwxyz[\\"⟩,
   ⟨0xFF3D, "]^_`abcdefghijklmnopqrstuvwxyz\x7b|\x7d~"⟩, ⟨0xFF61, "."⟩, ⟨0x107A5, "q"⟩,
   ⟨0x1CCD6, "abcdefghijklmnopqrstuvwxyz0123456789"⟩,
   ⟨0x1D400, "abcdefghijklmnopqrstuvwxyzabcdefghijklmnopqrstuvwxyzabcdefgh"⟩,
   ⟨0x1D43C, "ijklmnopqrstuvwxyzabcdefg"⟩,
   ⟨0x1D456, "ijklmnopqrstuvwxyzabcdefghijklmnopqrstuvwxyzabcdefghijklmnop"⟩,
   ⟨0x1D492, "qrstuvwxyza"⟩, ⟨0x1D49E, "cd"⟩, ⟨0x1D4A2, "g"⟩, ⟨0x1D4A5, "jk"⟩, ⟨0x1D4A9, "nopq"⟩,
   ⟨0x1D4AE, "stuvwxyzabcd"⟩, ⟨0x1D4BB, "f"⟩, ⟨0x1D4BD, "hijklmn"⟩,
   ⟨0x1D4C5, "pqrstuvwxyzabcdefghijklmnopqrstuvwxyzabcdefghijklmnopqrstuvw"⟩, ⟨0x1D501, "xyzab"⟩,
   ⟨0x1D507, "defg"⟩, ⟨0x1D50D, "jklmnopq"⟩, ⟨0x1D516, "stuvwxy"⟩,
   ⟨0x1D51E, "abcdefghijklmnopqrstuvwxyzab"⟩, ⟨0x1D53B, "defg"⟩, ⟨0x1D540, "ijklm"⟩,
   ⟨0x1D546, "o"⟩, ⟨0x1D54A, "stuvwxy"⟩,
   ⟨0x1D552, "abcdefghijklmnopqrstuvwxyzabcdefghijklmnopqrstuvwxyzabcdefgh"⟩,
   ⟨0x1D58E, "ijklmnopqrstuvwxyzabcdefghijklmnopqrstuvwxyzabcdefghijklmnop"⟩,
   ⟨0x1D5CA, "qrstuvwxyzabcdefghijklmnopqrstuvwxyzabcdefghijklmnopqrstuvwx"⟩,
   ⟨0x1D606, "yzabcdefghijklmnopqrstuvwxyzabcdefghijklmnopqrstuvwxyzabcdef"⟩,
   ⟨0x1D642, "ghijklmnopqrstuvwxyzabcdefghijklmnopqrstuvwxyzabcdefghijklmn"⟩,
   ⟨0x1D67E, "opqrstuvwxyzabcdefghijklmnopqrstuvwxyz"⟩,
   ⟨0x1D7CE, "01234567890123456789012345678901234567890123456789"⟩, ⟨0x1F12B, "cr"⟩,
   ⟨0x1F130, "abcdefghijklmnopqrstuvwxyz"⟩, ⟨0x1FBF0, "0123456789"⟩]

/-- A character that stands for a text. -/
structure TextForm where
  /-- The character. -/
  code : Nat
  /-- What it stands for. -/
  text : String

/-- Characters that stand for a text of several characters, of which at least one is ASCII. -/
def textForms : List TextForm :=
  [⟨0xA8, " \u0308"⟩, ⟨0xAF, " \u0304"⟩, ⟨0xB4, " \u0301"⟩, ⟨0xB8, " \u0327"⟩, ⟨0xBC, "1⁄4"⟩,
   ⟨0xBD, "1⁄2"⟩, ⟨0xBE, "3⁄4"⟩, ⟨0x130, "i\u0307"⟩, ⟨0x132, "ij"⟩, ⟨0x133, "ij"⟩, ⟨0x13F, "l·"⟩,
   ⟨0x140, "l·"⟩, ⟨0x149, "ʼn"⟩, ⟨0x1C4, "dž"⟩, ⟨0x1C5, "dž"⟩, ⟨0x1C6, "dž"⟩, ⟨0x1C7, "lj"⟩,
   ⟨0x1C8, "lj"⟩, ⟨0x1C9, "lj"⟩, ⟨0x1CA, "nj"⟩, ⟨0x1CB, "nj"⟩, ⟨0x1CC, "nj"⟩, ⟨0x1F1, "dz"⟩,
   ⟨0x1F2, "dz"⟩, ⟨0x1F3, "dz"⟩, ⟨0x2D8, " \u0306"⟩, ⟨0x2D9, " \u0307"⟩, ⟨0x2DA, " \u030a"⟩,
   ⟨0x2DB, " \u0328"⟩, ⟨0x2DC, " \u0303"⟩, ⟨0x2DD, " \u030b"⟩, ⟨0x37A, " ι"⟩, ⟨0x384, " \u0301"⟩,
   ⟨0x385, " \u0308\u0301"⟩, ⟨0x1E9A, "aʾ"⟩, ⟨0x1FBD, " \u0313"⟩, ⟨0x1FBF, " \u0313"⟩,
   ⟨0x1FC0, " \u0342"⟩, ⟨0x1FC1, " \u0308\u0342"⟩, ⟨0x1FCD, " \u0313\u0300"⟩,
   ⟨0x1FCE, " \u0313\u0301"⟩, ⟨0x1FCF, " \u0313\u0342"⟩, ⟨0x1FDD, " \u0314\u0300"⟩,
   ⟨0x1FDE, " \u0314\u0301"⟩, ⟨0x1FDF, " \u0314\u0342"⟩, ⟨0x1FED, " \u0308\u0300"⟩,
   ⟨0x1FEE, " \u0308\u0301"⟩, ⟨0x1FFD, " \u0301"⟩, ⟨0x1FFE, " \u0314"⟩, ⟨0x2017, " \u0333"⟩,
   ⟨0x203C, "!!"⟩, ⟨0x203E, " \u0305"⟩, ⟨0x2047, "??"⟩, ⟨0x2048, "?!"⟩, ⟨0x2049, "!?"⟩,
   ⟨0x20A8, "rs"⟩, ⟨0x2100, "a/c"⟩, ⟨0x2101, "a/s"⟩, ⟨0x2103, "°c"⟩, ⟨0x2105, "c/o"⟩,
   ⟨0x2106, "c/u"⟩, ⟨0x2109, "°f"⟩, ⟨0x2116, "no"⟩, ⟨0x2120, "sm"⟩, ⟨0x2121, "tel"⟩,
   ⟨0x2122, "tm"⟩, ⟨0x213B, "fax"⟩, ⟨0x2150, "1⁄7"⟩, ⟨0x2151, "1⁄9"⟩, ⟨0x2152, "1⁄10"⟩,
   ⟨0x2153, "1⁄3"⟩, ⟨0x2154, "2⁄3"⟩, ⟨0x2155, "1⁄5"⟩, ⟨0x2156, "2⁄5"⟩, ⟨0x2157, "3⁄5"⟩,
   ⟨0x2158, "4⁄5"⟩, ⟨0x2159, "1⁄6"⟩, ⟨0x215A, "5⁄6"⟩, ⟨0x215B, "1⁄8"⟩, ⟨0x215C, "3⁄8"⟩,
   ⟨0x215D, "5⁄8"⟩, ⟨0x215E, "7⁄8"⟩, ⟨0x215F, "1⁄"⟩, ⟨0x2161, "ii"⟩, ⟨0x2162, "iii"⟩,
   ⟨0x2163, "iv"⟩, ⟨0x2165, "vi"⟩, ⟨0x2166, "vii"⟩, ⟨0x2167, "viii"⟩, ⟨0x2168, "ix"⟩,
   ⟨0x216A, "xi"⟩, ⟨0x216B, "xii"⟩, ⟨0x2171, "ii"⟩, ⟨0x2172, "iii"⟩, ⟨0x2173, "iv"⟩,
   ⟨0x2175, "vi"⟩, ⟨0x2176, "vii"⟩, ⟨0x2177, "viii"⟩, ⟨0x2178, "ix"⟩, ⟨0x217A, "xi"⟩,
   ⟨0x217B, "xii"⟩, ⟨0x2189, "0⁄3"⟩, ⟨0x2469, "10"⟩, ⟨0x246A, "11"⟩, ⟨0x246B, "12"⟩,
   ⟨0x246C, "13"⟩, ⟨0x246D, "14"⟩, ⟨0x246E, "15"⟩, ⟨0x246F, "16"⟩, ⟨0x2470, "17"⟩, ⟨0x2471, "18"⟩,
   ⟨0x2472, "19"⟩, ⟨0x2473, "20"⟩, ⟨0x2474, "(1)"⟩, ⟨0x2475, "(2)"⟩, ⟨0x2476, "(3)"⟩,
   ⟨0x2477, "(4)"⟩, ⟨0x2478, "(5)"⟩, ⟨0x2479, "(6)"⟩, ⟨0x247A, "(7)"⟩, ⟨0x247B, "(8)"⟩,
   ⟨0x247C, "(9)"⟩, ⟨0x247D, "(10)"⟩, ⟨0x247E, "(11)"⟩, ⟨0x247F, "(12)"⟩, ⟨0x2480, "(13)"⟩,
   ⟨0x2481, "(14)"⟩, ⟨0x2482, "(15)"⟩, ⟨0x2483, "(16)"⟩, ⟨0x2484, "(17)"⟩, ⟨0x2485, "(18)"⟩,
   ⟨0x2486, "(19)"⟩, ⟨0x2487, "(20)"⟩, ⟨0x249C, "(a)"⟩, ⟨0x249D, "(b)"⟩, ⟨0x249E, "(c)"⟩,
   ⟨0x249F, "(d)"⟩, ⟨0x24A0, "(e)"⟩, ⟨0x24A1, "(f)"⟩, ⟨0x24A2, "(g)"⟩, ⟨0x24A3, "(h)"⟩,
   ⟨0x24A4, "(i)"⟩, ⟨0x24A5, "(j)"⟩, ⟨0x24A6, "(k)"⟩, ⟨0x24A7, "(l)"⟩, ⟨0x24A8, "(m)"⟩,
   ⟨0x24A9, "(n)"⟩, ⟨0x24AA, "(o)"⟩, ⟨0x24AB, "(p)"⟩, ⟨0x24AC, "(q)"⟩, ⟨0x24AD, "(r)"⟩,
   ⟨0x24AE, "(s)"⟩, ⟨0x24AF, "(t)"⟩, ⟨0x24B0, "(u)"⟩, ⟨0x24B1, "(v)"⟩, ⟨0x24B2, "(w)"⟩,
   ⟨0x24B3, "(x)"⟩, ⟨0x24B4, "(y)"⟩, ⟨0x24B5, "(z)"⟩, ⟨0x2A74, "::="⟩, ⟨0x2A75, "=="⟩,
   ⟨0x2A76, "==="⟩, ⟨0x309B, " \u3099"⟩, ⟨0x309C, " \u309a"⟩, ⟨0x3200, "(ᄀ)"⟩, ⟨0x3201, "(ᄂ)"⟩,
   ⟨0x3202, "(ᄃ)"⟩, ⟨0x3203, "(ᄅ)"⟩, ⟨0x3204, "(ᄆ)"⟩, ⟨0x3205, "(ᄇ)"⟩, ⟨0x3206, "(ᄉ)"⟩,
   ⟨0x3207, "(ᄋ)"⟩, ⟨0x3208, "(ᄌ)"⟩, ⟨0x3209, "(ᄎ)"⟩, ⟨0x320A, "(ᄏ)"⟩, ⟨0x320B, "(ᄐ)"⟩,
   ⟨0x320C, "(ᄑ)"⟩, ⟨0x320D, "(ᄒ)"⟩, ⟨0x320E, "(가)"⟩, ⟨0x320F, "(나)"⟩, ⟨0x3210, "(다)"⟩,
   ⟨0x3211, "(라)"⟩, ⟨0x3212, "(마)"⟩, ⟨0x3213, "(바)"⟩, ⟨0x3214, "(사)"⟩, ⟨0x3215, "(아)"⟩,
   ⟨0x3216, "(자)"⟩, ⟨0x3217, "(차)"⟩, ⟨0x3218, "(카)"⟩, ⟨0x3219, "(타)"⟩, ⟨0x321A, "(파)"⟩,
   ⟨0x321B, "(하)"⟩, ⟨0x321C, "(주)"⟩, ⟨0x321D, "(오전)"⟩, ⟨0x321E, "(오후)"⟩, ⟨0x3220, "(一)"⟩,
   ⟨0x3221, "(二)"⟩, ⟨0x3222, "(三)"⟩, ⟨0x3223, "(四)"⟩, ⟨0x3224, "(五)"⟩, ⟨0x3225, "(六)"⟩,
   ⟨0x3226, "(七)"⟩, ⟨0x3227, "(八)"⟩, ⟨0x3228, "(九)"⟩, ⟨0x3229, "(十)"⟩, ⟨0x322A, "(月)"⟩,
   ⟨0x322B, "(火)"⟩, ⟨0x322C, "(水)"⟩, ⟨0x322D, "(木)"⟩, ⟨0x322E, "(金)"⟩, ⟨0x322F, "(土)"⟩,
   ⟨0x3230, "(日)"⟩, ⟨0x3231, "(株)"⟩, ⟨0x3232, "(有)"⟩, ⟨0x3233, "(社)"⟩, ⟨0x3234, "(名)"⟩,
   ⟨0x3235, "(特)"⟩, ⟨0x3236, "(財)"⟩, ⟨0x3237, "(祝)"⟩, ⟨0x3238, "(労)"⟩, ⟨0x3239, "(代)"⟩,
   ⟨0x323A, "(呼)"⟩, ⟨0x323B, "(学)"⟩, ⟨0x323C, "(監)"⟩, ⟨0x323D, "(企)"⟩, ⟨0x323E, "(資)"⟩,
   ⟨0x323F, "(協)"⟩, ⟨0x3240, "(祭)"⟩, ⟨0x3241, "(休)"⟩, ⟨0x3242, "(自)"⟩, ⟨0x3243, "(至)"⟩,
   ⟨0x3250, "pte"⟩, ⟨0x3251, "21"⟩, ⟨0x3252, "22"⟩, ⟨0x3253, "23"⟩, ⟨0x3254, "24"⟩, ⟨0x3255, "25"⟩,
   ⟨0x3256, "26"⟩, ⟨0x3257, "27"⟩, ⟨0x3258, "28"⟩, ⟨0x3259, "29"⟩, ⟨0x325A, "30"⟩, ⟨0x325B, "31"⟩,
   ⟨0x325C, "32"⟩, ⟨0x325D, "33"⟩, ⟨0x325E, "34"⟩, ⟨0x325F, "35"⟩, ⟨0x32B1, "36"⟩, ⟨0x32B2, "37"⟩,
   ⟨0x32B3, "38"⟩, ⟨0x32B4, "39"⟩, ⟨0x32B5, "40"⟩, ⟨0x32B6, "41"⟩, ⟨0x32B7, "42"⟩, ⟨0x32B8, "43"⟩,
   ⟨0x32B9, "44"⟩, ⟨0x32BA, "45"⟩, ⟨0x32BB, "46"⟩, ⟨0x32BC, "47"⟩, ⟨0x32BD, "48"⟩, ⟨0x32BE, "49"⟩,
   ⟨0x32BF, "50"⟩, ⟨0x32C0, "1月"⟩, ⟨0x32C1, "2月"⟩, ⟨0x32C2, "3月"⟩, ⟨0x32C3, "4月"⟩, ⟨0x32C4, "5月"⟩,
   ⟨0x32C5, "6月"⟩, ⟨0x32C6, "7月"⟩, ⟨0x32C7, "8月"⟩, ⟨0x32C8, "9月"⟩, ⟨0x32C9, "10月"⟩,
   ⟨0x32CA, "11月"⟩, ⟨0x32CB, "12月"⟩, ⟨0x32CC, "hg"⟩, ⟨0x32CD, "erg"⟩, ⟨0x32CE, "ev"⟩,
   ⟨0x32CF, "ltd"⟩, ⟨0x3358, "0点"⟩, ⟨0x3359, "1点"⟩, ⟨0x335A, "2点"⟩, ⟨0x335B, "3点"⟩, ⟨0x335C, "4点"⟩,
   ⟨0x335D, "5点"⟩, ⟨0x335E, "6点"⟩, ⟨0x335F, "7点"⟩, ⟨0x3360, "8点"⟩, ⟨0x3361, "9点"⟩, ⟨0x3362, "10点"⟩,
   ⟨0x3363, "11点"⟩, ⟨0x3364, "12点"⟩, ⟨0x3365, "13点"⟩, ⟨0x3366, "14点"⟩, ⟨0x3367, "15点"⟩,
   ⟨0x3368, "16点"⟩, ⟨0x3369, "17点"⟩, ⟨0x336A, "18点"⟩, ⟨0x336B, "19点"⟩, ⟨0x336C, "20点"⟩,
   ⟨0x336D, "21点"⟩, ⟨0x336E, "22点"⟩, ⟨0x336F, "23点"⟩, ⟨0x3370, "24点"⟩, ⟨0x3371, "hpa"⟩,
   ⟨0x3372, "da"⟩, ⟨0x3373, "au"⟩, ⟨0x3374, "bar"⟩, ⟨0x3375, "ov"⟩, ⟨0x3376, "pc"⟩, ⟨0x3377, "dm"⟩,
   ⟨0x3378, "dm2"⟩, ⟨0x3379, "dm3"⟩, ⟨0x337A, "iu"⟩, ⟨0x3380, "pa"⟩, ⟨0x3381, "na"⟩,
   ⟨0x3382, "μa"⟩, ⟨0x3383, "ma"⟩, ⟨0x3384, "ka"⟩, ⟨0x3385, "kb"⟩, ⟨0x3386, "mb"⟩, ⟨0x3387, "gb"⟩,
   ⟨0x3388, "cal"⟩, ⟨0x3389, "kcal"⟩, ⟨0x338A, "pf"⟩, ⟨0x338B, "nf"⟩, ⟨0x338C, "μf"⟩,
   ⟨0x338D, "μg"⟩, ⟨0x338E, "mg"⟩, ⟨0x338F, "kg"⟩, ⟨0x3390, "hz"⟩, ⟨0x3391, "khz"⟩,
   ⟨0x3392, "mhz"⟩, ⟨0x3393, "ghz"⟩, ⟨0x3394, "thz"⟩, ⟨0x3395, "μl"⟩, ⟨0x3396, "ml"⟩,
   ⟨0x3397, "dl"⟩, ⟨0x3398, "kl"⟩, ⟨0x3399, "fm"⟩, ⟨0x339A, "nm"⟩, ⟨0x339B, "μm"⟩, ⟨0x339C, "mm"⟩,
   ⟨0x339D, "cm"⟩, ⟨0x339E, "km"⟩, ⟨0x339F, "mm2"⟩, ⟨0x33A0, "cm2"⟩, ⟨0x33A1, "m2"⟩,
   ⟨0x33A2, "km2"⟩, ⟨0x33A3, "mm3"⟩, ⟨0x33A4, "cm3"⟩, ⟨0x33A5, "m3"⟩, ⟨0x33A6, "km3"⟩,
   ⟨0x33A7, "m∕s"⟩, ⟨0x33A8, "m∕s2"⟩, ⟨0x33A9, "pa"⟩, ⟨0x33AA, "kpa"⟩, ⟨0x33AB, "mpa"⟩,
   ⟨0x33AC, "gpa"⟩, ⟨0x33AD, "rad"⟩, ⟨0x33AE, "rad∕s"⟩, ⟨0x33AF, "rad∕s2"⟩, ⟨0x33B0, "ps"⟩,
   ⟨0x33B1, "ns"⟩, ⟨0x33B2, "μs"⟩, ⟨0x33B3, "ms"⟩, ⟨0x33B4, "pv"⟩, ⟨0x33B5, "nv"⟩, ⟨0x33B6, "μv"⟩,
   ⟨0x33B7, "mv"⟩, ⟨0x33B8, "kv"⟩, ⟨0x33B9, "mv"⟩, ⟨0x33BA, "pw"⟩, ⟨0x33BB, "nw"⟩, ⟨0x33BC, "μw"⟩,
   ⟨0x33BD, "mw"⟩, ⟨0x33BE, "kw"⟩, ⟨0x33BF, "mw"⟩, ⟨0x33C0, "kω"⟩, ⟨0x33C1, "mω"⟩, ⟨0x33C3, "bq"⟩,
   ⟨0x33C4, "cc"⟩, ⟨0x33C5, "cd"⟩, ⟨0x33C6, "c∕kg"⟩, ⟨0x33C8, "db"⟩, ⟨0x33C9, "gy"⟩,
   ⟨0x33CA, "ha"⟩, ⟨0x33CB, "hp"⟩, ⟨0x33CC, "in"⟩, ⟨0x33CD, "kk"⟩, ⟨0x33CE, "km"⟩, ⟨0x33CF, "kt"⟩,
   ⟨0x33D0, "lm"⟩, ⟨0x33D1, "ln"⟩, ⟨0x33D2, "log"⟩, ⟨0x33D3, "lx"⟩, ⟨0x33D4, "mb"⟩,
   ⟨0x33D5, "mil"⟩, ⟨0x33D6, "mol"⟩, ⟨0x33D7, "ph"⟩, ⟨0x33D9, "ppm"⟩, ⟨0x33DA, "pr"⟩,
   ⟨0x33DB, "sr"⟩, ⟨0x33DC, "sv"⟩, ⟨0x33DD, "wb"⟩, ⟨0x33DE, "v∕m"⟩, ⟨0x33DF, "a∕m"⟩,
   ⟨0x33E0, "1日"⟩, ⟨0x33E1, "2日"⟩, ⟨0x33E2, "3日"⟩, ⟨0x33E3, "4日"⟩, ⟨0x33E4, "5日"⟩, ⟨0x33E5, "6日"⟩,
   ⟨0x33E6, "7日"⟩, ⟨0x33E7, "8日"⟩, ⟨0x33E8, "9日"⟩, ⟨0x33E9, "10日"⟩, ⟨0x33EA, "11日"⟩,
   ⟨0x33EB, "12日"⟩, ⟨0x33EC, "13日"⟩, ⟨0x33ED, "14日"⟩, ⟨0x33EE, "15日"⟩, ⟨0x33EF, "16日"⟩,
   ⟨0x33F0, "17日"⟩, ⟨0x33F1, "18日"⟩, ⟨0x33F2, "19日"⟩, ⟨0x33F3, "20日"⟩, ⟨0x33F4, "21日"⟩,
   ⟨0x33F5, "22日"⟩, ⟨0x33F6, "23日"⟩, ⟨0x33F7, "24日"⟩, ⟨0x33F8, "25日"⟩, ⟨0x33F9, "26日"⟩,
   ⟨0x33FA, "27日"⟩, ⟨0x33FB, "28日"⟩, ⟨0x33FC, "29日"⟩, ⟨0x33FD, "30日"⟩, ⟨0x33FE, "31日"⟩,
   ⟨0x33FF, "gal"⟩, ⟨0xFB00, "ff"⟩, ⟨0xFB01, "fi"⟩, ⟨0xFB02, "fl"⟩, ⟨0xFB03, "ffi"⟩,
   ⟨0xFB04, "ffl"⟩, ⟨0xFB05, "st"⟩, ⟨0xFB06, "st"⟩, ⟨0xFC5E, " \u064c\u0651"⟩,
   ⟨0xFC5F, " \u064d\u0651"⟩, ⟨0xFC60, " \u064e\u0651"⟩, ⟨0xFC61, " \u064f\u0651"⟩,
   ⟨0xFC62, " \u0650\u0651"⟩, ⟨0xFC63, " \u0651\u0670"⟩, ⟨0xFDFA, "صلى الله عليه وسلم"⟩,
   ⟨0xFDFB, "جل جلاله"⟩, ⟨0xFE49, " \u0305"⟩, ⟨0xFE4A, " \u0305"⟩, ⟨0xFE4B, " \u0305"⟩,
   ⟨0xFE4C, " \u0305"⟩, ⟨0xFE70, " \u064b"⟩, ⟨0xFE72, " \u064c"⟩, ⟨0xFE74, " \u064d"⟩,
   ⟨0xFE76, " \u064e"⟩, ⟨0xFE78, " \u064f"⟩, ⟨0xFE7A, " \u0650"⟩, ⟨0xFE7C, " \u0651"⟩,
   ⟨0xFE7E, " \u0652"⟩, ⟨0xFFE3, " \u0304"⟩, ⟨0x1F101, "0,"⟩, ⟨0x1F102, "1,"⟩, ⟨0x1F103, "2,"⟩,
   ⟨0x1F104, "3,"⟩, ⟨0x1F105, "4,"⟩, ⟨0x1F106, "5,"⟩, ⟨0x1F107, "6,"⟩, ⟨0x1F108, "7,"⟩,
   ⟨0x1F109, "8,"⟩, ⟨0x1F10A, "9,"⟩, ⟨0x1F110, "(a)"⟩, ⟨0x1F111, "(b)"⟩, ⟨0x1F112, "(c)"⟩,
   ⟨0x1F113, "(d)"⟩, ⟨0x1F114, "(e)"⟩, ⟨0x1F115, "(f)"⟩, ⟨0x1F116, "(g)"⟩, ⟨0x1F117, "(h)"⟩,
   ⟨0x1F118, "(i)"⟩, ⟨0x1F119, "(j)"⟩, ⟨0x1F11A, "(k)"⟩, ⟨0x1F11B, "(l)"⟩, ⟨0x1F11C, "(m)"⟩,
   ⟨0x1F11D, "(n)"⟩, ⟨0x1F11E, "(o)"⟩, ⟨0x1F11F, "(p)"⟩, ⟨0x1F120, "(q)"⟩, ⟨0x1F121, "(r)"⟩,
   ⟨0x1F122, "(s)"⟩, ⟨0x1F123, "(t)"⟩, ⟨0x1F124, "(u)"⟩, ⟨0x1F125, "(v)"⟩, ⟨0x1F126, "(w)"⟩,
   ⟨0x1F127, "(x)"⟩, ⟨0x1F128, "(y)"⟩, ⟨0x1F129, "(z)"⟩, ⟨0x1F12A, "〔s〕"⟩, ⟨0x1F12D, "cd"⟩,
   ⟨0x1F12E, "wz"⟩, ⟨0x1F14A, "hv"⟩, ⟨0x1F14B, "mv"⟩, ⟨0x1F14C, "sd"⟩, ⟨0x1F14D, "ss"⟩,
   ⟨0x1F14E, "ppv"⟩, ⟨0x1F14F, "wc"⟩, ⟨0x1F16A, "mc"⟩, ⟨0x1F16B, "md"⟩, ⟨0x1F16C, "mr"⟩,
   ⟨0x1F190, "dj"⟩]

/-- Characters that stand for a text without ASCII characters. -/
def otherForms : CharSet :=
  [⟨0xB5, 0xB5, 1⟩, ⟨0xC0, 0xD6, 1⟩, ⟨0xD8, 0xDE, 1⟩, ⟨0x100, 0x12E, 2⟩, ⟨0x134, 0x134, 1⟩,
   ⟨0x136, 0x136, 1⟩, ⟨0x139, 0x13D, 2⟩, ⟨0x141, 0x147, 2⟩, ⟨0x14A, 0x176, 2⟩, ⟨0x178, 0x179, 1⟩,
   ⟨0x17B, 0x17B, 1⟩, ⟨0x17D, 0x17D, 1⟩, ⟨0x181, 0x182, 1⟩, ⟨0x184, 0x184, 1⟩, ⟨0x186, 0x187, 1⟩,
   ⟨0x189, 0x18B, 1⟩, ⟨0x18E, 0x191, 1⟩, ⟨0x193, 0x194, 1⟩, ⟨0x196, 0x198, 1⟩, ⟨0x19C, 0x19D, 1⟩,
   ⟨0x19F, 0x1A0, 1⟩, ⟨0x1A2, 0x1A2, 1⟩, ⟨0x1A4, 0x1A4, 1⟩, ⟨0x1A6, 0x1A7, 1⟩, ⟨0x1A9, 0x1A9, 1⟩,
   ⟨0x1AC, 0x1AC, 1⟩, ⟨0x1AE, 0x1AF, 1⟩, ⟨0x1B1, 0x1B3, 1⟩, ⟨0x1B5, 0x1B5, 1⟩, ⟨0x1B7, 0x1B8, 1⟩,
   ⟨0x1BC, 0x1BC, 1⟩, ⟨0x1CD, 0x1DB, 2⟩, ⟨0x1DE, 0x1EE, 2⟩, ⟨0x1F4, 0x1F4, 1⟩, ⟨0x1F6, 0x1F8, 1⟩,
   ⟨0x1FA, 0x232, 2⟩, ⟨0x23A, 0x23B, 1⟩, ⟨0x23D, 0x23E, 1⟩, ⟨0x241, 0x241, 1⟩, ⟨0x243, 0x246, 1⟩,
   ⟨0x248, 0x24E, 2⟩, ⟨0x2B1, 0x2B1, 1⟩, ⟨0x2B4, 0x2B6, 1⟩, ⟨0x2E0, 0x2E0, 1⟩, ⟨0x2E4, 0x2E4, 1⟩,
   ⟨0x340, 0x341, 1⟩, ⟨0x343, 0x345, 1⟩, ⟨0x370, 0x376, 2⟩, ⟨0x37F, 0x37F, 1⟩, ⟨0x386, 0x38A, 1⟩,
   ⟨0x38C, 0x38C, 1⟩, ⟨0x38E, 0x38F, 1⟩, ⟨0x391, 0x3A1, 1⟩, ⟨0x3A3, 0x3AB, 1⟩, ⟨0x3CF, 0x3D6, 1⟩,
   ⟨0x3D8, 0x3EE, 2⟩, ⟨0x3F0, 0x3F2, 1⟩, ⟨0x3F4, 0x3F5, 1⟩, ⟨0x3F7, 0x3F7, 1⟩, ⟨0x3F9, 0x3FA, 1⟩,
   ⟨0x3FD, 0x42F, 1⟩, ⟨0x460, 0x480, 2⟩, ⟨0x48A, 0x4BE, 2⟩, ⟨0x4C0, 0x4C1, 1⟩, ⟨0x4C3, 0x4CD, 2⟩,
   ⟨0x4D0, 0x52E, 2⟩, ⟨0x531, 0x556, 1⟩, ⟨0x587, 0x587, 1⟩, ⟨0x675, 0x678, 1⟩, ⟨0x958, 0x95F, 1⟩,
   ⟨0x9DC, 0x9DD, 1⟩, ⟨0x9DF, 0x9DF, 1⟩, ⟨0xA33, 0xA33, 1⟩, ⟨0xA36, 0xA36, 1⟩, ⟨0xA59, 0xA5B, 1⟩,
   ⟨0xA5E, 0xA5E, 1⟩, ⟨0xB5C, 0xB5D, 1⟩, ⟨0xE33, 0xE33, 1⟩, ⟨0xEB3, 0xEB3, 1⟩, ⟨0xEDC, 0xEDD, 1⟩,
   ⟨0xF0C, 0xF0C, 1⟩, ⟨0xF43, 0xF43, 1⟩, ⟨0xF4D, 0xF4D, 1⟩, ⟨0xF52, 0xF52, 1⟩, ⟨0xF57, 0xF57, 1⟩,
   ⟨0xF5C, 0xF5C, 1⟩, ⟨0xF69, 0xF69, 1⟩, ⟨0xF73, 0xF73, 1⟩, ⟨0xF75, 0xF79, 1⟩, ⟨0xF81, 0xF81, 1⟩,
   ⟨0xF93, 0xF93, 1⟩, ⟨0xF9D, 0xF9D, 1⟩, ⟨0xFA2, 0xFA2, 1⟩, ⟨0xFA7, 0xFA7, 1⟩, ⟨0xFAC, 0xFAC, 1⟩,
   ⟨0xFB9, 0xFB9, 1⟩, ⟨0x10A0, 0x10C5, 1⟩, ⟨0x10C7, 0x10C7, 1⟩, ⟨0x10CD, 0x10CD, 1⟩,
   ⟨0x10FC, 0x10FC, 1⟩, ⟨0x13F8, 0x13FD, 1⟩, ⟨0x1C80, 0x1C89, 1⟩, ⟨0x1C90, 0x1CBA, 1⟩,
   ⟨0x1CBD, 0x1CBF, 1⟩, ⟨0x1D2D, 0x1D2D, 1⟩, ⟨0x1D32, 0x1D32, 1⟩, ⟨0x1D3D, 0x1D3D, 1⟩,
   ⟨0x1D44, 0x1D46, 1⟩, ⟨0x1D4A, 0x1D4C, 1⟩, ⟨0x1D51, 0x1D51, 1⟩, ⟨0x1D53, 0x1D55, 1⟩,
   ⟨0x1D59, 0x1D5A, 1⟩, ⟨0x1D5C, 0x1D61, 1⟩, ⟨0x1D66, 0x1D6A, 1⟩, ⟨0x1D78, 0x1D78, 1⟩,
   ⟨0x1D9B, 0x1D9B, 1⟩, ⟨0x1D9D, 0x1D9F, 1⟩, ⟨0x1DA1, 0x1DBA, 1⟩, ⟨0x1DBC, 0x1DBF, 1⟩,
   ⟨0x1E00, 0x1E94, 2⟩, ⟨0x1E9B, 0x1E9B, 1⟩, ⟨0x1E9E, 0x1EFE, 2⟩, ⟨0x1F08, 0x1F0F, 1⟩,
   ⟨0x1F18, 0x1F1D, 1⟩, ⟨0x1F28, 0x1F2F, 1⟩, ⟨0x1F38, 0x1F3F, 1⟩, ⟨0x1F48, 0x1F4D, 1⟩,
   ⟨0x1F59, 0x1F5F, 2⟩, ⟨0x1F68, 0x1F6F, 1⟩, ⟨0x1F71, 0x1F7D, 2⟩, ⟨0x1F80, 0x1FAF, 1⟩,
   ⟨0x1FB2, 0x1FB4, 1⟩, ⟨0x1FB7, 0x1FBC, 1⟩, ⟨0x1FBE, 0x1FBE, 1⟩, ⟨0x1FC2, 0x1FC4, 1⟩,
   ⟨0x1FC7, 0x1FCC, 1⟩, ⟨0x1FD3, 0x1FD3, 1⟩, ⟨0x1FD8, 0x1FDB, 1⟩, ⟨0x1FE3, 0x1FE3, 1⟩,
   ⟨0x1FE8, 0x1FEC, 1⟩, ⟨0x1FF2, 0x1FF4, 1⟩, ⟨0x1FF7, 0x1FFC, 1⟩, ⟨0x2011, 0x2011, 1⟩,
   ⟨0x2033, 0x2034, 1⟩, ⟨0x2036, 0x2037, 1⟩, ⟨0x2057, 0x2057, 1⟩, ⟨0x207B, 0x207B, 1⟩,
   ⟨0x208B, 0x208B, 1⟩, ⟨0x2094, 0x2094, 1⟩, ⟨0x2107, 0x2107, 1⟩, ⟨0x210F, 0x210F, 1⟩,
   ⟨0x2126, 0x2126, 1⟩, ⟨0x212B, 0x212B, 1⟩, ⟨0x2132, 0x2132, 1⟩, ⟨0x2135, 0x2138, 1⟩,
   ⟨0x213C, 0x2140, 1⟩, ⟨0x2183, 0x2183, 1⟩, ⟨0x222C, 0x222D, 1⟩, ⟨0x222F, 0x2230, 1⟩,
   ⟨0x2329, 0x232A, 1⟩, ⟨0x2A0C, 0x2A0C, 1⟩, ⟨0x2ADC, 0x2ADC, 1⟩, ⟨0x2C00, 0x2C2F, 1⟩,
   ⟨0x2C60, 0x2C60, 1⟩, ⟨0x2C62, 0x2C64, 1⟩, ⟨0x2C67, 0x2C6B, 2⟩, ⟨0x2C6D, 0x2C70, 1⟩,
   ⟨0x2C72, 0x2C72, 1⟩, ⟨0x2C75, 0x2C75, 1⟩, ⟨0x2C7E, 0x2C80, 1⟩, ⟨0x2C82, 0x2CE2, 2⟩,
   ⟨0x2CEB, 0x2CEB, 1⟩, ⟨0x2CED, 0x2CED, 1⟩, ⟨0x2CF2, 0x2CF2, 1⟩, ⟨0x2D6F, 0x2D6F, 1⟩,
   ⟨0x2E9F, 0x2E9F, 1⟩, ⟨0x2EF3, 0x2EF3, 1⟩, ⟨0x2F00, 0x2FD5, 1⟩, ⟨0x3036, 0x3036, 1⟩,
   ⟨0x3038, 0x303A, 1⟩, ⟨0x309F, 0x309F, 1⟩, ⟨0x30FF, 0x30FF, 1⟩, ⟨0x3131, 0x3163, 1⟩,
   ⟨0x3165, 0x318E, 1⟩, ⟨0x3192, 0x319F, 1⟩, ⟨0x3244, 0x3247, 1⟩, ⟨0x3260, 0x327E, 1⟩,
   ⟨0x3280, 0x32B0, 1⟩, ⟨0x32D0, 0x3357, 1⟩, ⟨0x337B, 0x337F, 1⟩, ⟨0xA640, 0xA66C, 2⟩,
   ⟨0xA680, 0xA69A, 2⟩, ⟨0xA69C, 0xA69D, 1⟩, ⟨0xA722, 0xA72E, 2⟩, ⟨0xA732, 0xA770, 2⟩,
   ⟨0xA779, 0xA779, 1⟩, ⟨0xA77B, 0xA77B, 1⟩, ⟨0xA77D, 0xA77E, 1⟩, ⟨0xA780, 0xA786, 2⟩,
   ⟨0xA78B, 0xA78B, 1⟩, ⟨0xA78D, 0xA78D, 1⟩, ⟨0xA790, 0xA790, 1⟩, ⟨0xA792, 0xA792, 1⟩,
   ⟨0xA796, 0xA7A8, 2⟩, ⟨0xA7AA, 0xA7AE, 1⟩, ⟨0xA7B0, 0xA7B4, 1⟩, ⟨0xA7B6, 0xA7C2, 2⟩,
   ⟨0xA7C4, 0xA7C7, 1⟩, ⟨0xA7C9, 0xA7C9, 1⟩, ⟨0xA7CB, 0xA7CC, 1⟩, ⟨0xA7CE, 0xA7DC, 2⟩,
   ⟨0xA7F5, 0xA7F5, 1⟩, ⟨0xA7F8, 0xA7F9, 1⟩, ⟨0xAB5C, 0xAB5F, 1⟩, ⟨0xAB69, 0xAB69, 1⟩,
   ⟨0xAB70, 0xABBF, 1⟩, ⟨0xF900, 0xFA0D, 1⟩, ⟨0xFA10, 0xFA10, 1⟩, ⟨0xFA12, 0xFA12, 1⟩,
   ⟨0xFA15, 0xFA1E, 1⟩, ⟨0xFA20, 0xFA20, 1⟩, ⟨0xFA22, 0xFA22, 1⟩, ⟨0xFA25, 0xFA26, 1⟩,
   ⟨0xFA2A, 0xFA6D, 1⟩, ⟨0xFA70, 0xFAD9, 1⟩, ⟨0xFB13, 0xFB17, 1⟩, ⟨0xFB1D, 0xFB1D, 1⟩,
   ⟨0xFB1F, 0xFB28, 1⟩, ⟨0xFB2A, 0xFB36, 1⟩, ⟨0xFB38, 0xFB3C, 1⟩, ⟨0xFB3E, 0xFB3E, 1⟩,
   ⟨0xFB40, 0xFB41, 1⟩, ⟨0xFB43, 0xFB44, 1⟩, ⟨0xFB46, 0xFBB1, 1⟩, ⟨0xFBD3, 0xFC5D, 1⟩,
   ⟨0xFC64, 0xFD3D, 1⟩, ⟨0xFD50, 0xFD8F, 1⟩, ⟨0xFD92, 0xFDC7, 1⟩, ⟨0xFDF0, 0xFDF9, 1⟩,
   ⟨0xFDFC, 0xFDFC, 1⟩, ⟨0xFE11, 0xFE11, 1⟩, ⟨0xFE17, 0xFE18, 1⟩, ⟨0xFE31, 0xFE32, 1⟩,
   ⟨0xFE39, 0xFE44, 1⟩, ⟨0xFE51, 0xFE51, 1⟩, ⟨0xFE58, 0xFE58, 1⟩, ⟨0xFE5D, 0xFE5E, 1⟩,
   ⟨0xFE71, 0xFE71, 1⟩, ⟨0xFE77, 0xFE7D, 2⟩, ⟨0xFE7F, 0xFEFC, 1⟩, ⟨0xFF5F, 0xFF60, 1⟩,
   ⟨0xFF62, 0xFF9F, 1⟩, ⟨0xFFA1, 0xFFBE, 1⟩, ⟨0xFFC2, 0xFFC7, 1⟩, ⟨0xFFCA, 0xFFCF, 1⟩,
   ⟨0xFFD2, 0xFFD7, 1⟩, ⟨0xFFDA, 0xFFDC, 1⟩, ⟨0xFFE0, 0xFFE2, 1⟩, ⟨0xFFE4, 0xFFE6, 1⟩,
   ⟨0xFFE8, 0xFFEE, 1⟩, ⟨0x10400, 0x10427, 1⟩, ⟨0x104B0, 0x104D3, 1⟩, ⟨0x10570, 0x1057A, 1⟩,
   ⟨0x1057C, 0x1058A, 1⟩, ⟨0x1058C, 0x10592, 1⟩, ⟨0x10594, 0x10595, 1⟩, ⟨0x10781, 0x10785, 1⟩,
   ⟨0x10787, 0x107A4, 1⟩, ⟨0x107A6, 0x107B0, 1⟩, ⟨0x107B2, 0x107BA, 1⟩, ⟨0x10C80, 0x10CB2, 1⟩,
   ⟨0x10D50, 0x10D65, 1⟩, ⟨0x118A0, 0x118BF, 1⟩, ⟨0x16E40, 0x16E5F, 1⟩, ⟨0x16EA0, 0x16EB8, 1⟩,
   ⟨0x1D15E, 0x1D164, 1⟩, ⟨0x1D1BB, 0x1D1C0, 1⟩, ⟨0x1D6A4, 0x1D6A5, 1⟩, ⟨0x1D6A8, 0x1D7CB, 1⟩,
   ⟨0x1E030, 0x1E06D, 1⟩, ⟨0x1E900, 0x1E921, 1⟩, ⟨0x1EE00, 0x1EE03, 1⟩, ⟨0x1EE05, 0x1EE1F, 1⟩,
   ⟨0x1EE21, 0x1EE22, 1⟩, ⟨0x1EE24, 0x1EE24, 1⟩, ⟨0x1EE27, 0x1EE27, 1⟩, ⟨0x1EE29, 0x1EE32, 1⟩,
   ⟨0x1EE34, 0x1EE37, 1⟩, ⟨0x1EE39, 0x1EE39, 1⟩, ⟨0x1EE3B, 0x1EE3B, 1⟩, ⟨0x1EE42, 0x1EE42, 1⟩,
   ⟨0x1EE47, 0x1EE4B, 2⟩, ⟨0x1EE4D, 0x1EE4F, 1⟩, ⟨0x1EE51, 0x1EE52, 1⟩, ⟨0x1EE54, 0x1EE54, 1⟩,
   ⟨0x1EE57, 0x1EE5F, 2⟩, ⟨0x1EE61, 0x1EE62, 1⟩, ⟨0x1EE64, 0x1EE64, 1⟩, ⟨0x1EE67, 0x1EE6A, 1⟩,
   ⟨0x1EE6C, 0x1EE72, 1⟩, ⟨0x1EE74, 0x1EE77, 1⟩, ⟨0x1EE79, 0x1EE7C, 1⟩, ⟨0x1EE7E, 0x1EE7E, 1⟩,
   ⟨0x1EE80, 0x1EE89, 1⟩, ⟨0x1EE8B, 0x1EE9B, 1⟩, ⟨0x1EEA1, 0x1EEA3, 1⟩, ⟨0x1EEA5, 0x1EEA9, 1⟩,
   ⟨0x1EEAB, 0x1EEBB, 1⟩, ⟨0x1F200, 0x1F202, 1⟩, ⟨0x1F210, 0x1F23B, 1⟩, ⟨0x1F240, 0x1F248, 1⟩,
   ⟨0x1F250, 0x1F251, 1⟩, ⟨0x2F800, 0x2FA1D, 1⟩]

/-- What a character stands for, if that is one ASCII character. -/
def asciiForm? (c : Char) : Option Char :=
  asciiForms.findSome? fun r =>
    if c.toNat < r.first then none else r.forms.toList[c.toNat - r.first]?

/-- What stands in a name for a character. There is nothing if no name has it. -/
def nameForm? (c : Char) : Option (List Char) :=
  if c.toNat < 0x80 then some [c.toLower]
  else if refusedChars.contains c then none
  else if vanishingChars.contains c then some []
  else
    match asciiForm? c with
    | some a => some [a]
    | none =>
      match textForms.find? fun f => f.code == c.toNat with
      | some f => some f.text.toList
      | none => some [c]

/-- Whether a character is the only way to write what it stands for. -/
def isSettled (c : Char) : Bool :=
  nameForm? c == some [c] && !otherForms.contains c

end BotBindings.Address
