import BotBindings.Text.Mark

/-!
# Joined letters

In some scripts letters are joined to their neighbours. A letter may be joined to the next one, to
the one before it, or to both. Marks between two letters do not part them.
-/

namespace BotBindings.Text

/-- Letters that are joined to both neighbours. -/
def joinedOnBothSides : CharSet :=
  [⟨0x620, 0x620, 1⟩, ⟨0x626, 0x626, 1⟩, ⟨0x628, 0x628, 1⟩, ⟨0x62A, 0x62E, 1⟩, ⟨0x633, 0x63F, 1⟩,
   ⟨0x641, 0x647, 1⟩, ⟨0x649, 0x64A, 1⟩, ⟨0x66E, 0x66F, 1⟩, ⟨0x678, 0x687, 1⟩, ⟨0x69A, 0x6BF, 1⟩,
   ⟨0x6C1, 0x6C2, 1⟩, ⟨0x6CC, 0x6CC, 1⟩, ⟨0x6CE, 0x6CE, 1⟩, ⟨0x6D0, 0x6D1, 1⟩, ⟨0x6FA, 0x6FC, 1⟩,
   ⟨0x6FF, 0x6FF, 1⟩, ⟨0x712, 0x714, 1⟩, ⟨0x71A, 0x71D, 1⟩, ⟨0x71F, 0x727, 1⟩, ⟨0x729, 0x729, 1⟩,
   ⟨0x72B, 0x72B, 1⟩, ⟨0x72D, 0x72E, 1⟩, ⟨0x74E, 0x758, 1⟩, ⟨0x75C, 0x76A, 1⟩, ⟨0x76D, 0x770, 1⟩,
   ⟨0x772, 0x772, 1⟩, ⟨0x775, 0x777, 1⟩, ⟨0x77A, 0x77F, 1⟩, ⟨0x7CA, 0x7EA, 1⟩, ⟨0x841, 0x845, 1⟩,
   ⟨0x848, 0x848, 1⟩, ⟨0x84A, 0x853, 1⟩, ⟨0x855, 0x855, 1⟩, ⟨0x860, 0x860, 1⟩, ⟨0x862, 0x865, 1⟩,
   ⟨0x868, 0x868, 1⟩, ⟨0x886, 0x886, 1⟩, ⟨0x889, 0x88D, 1⟩, ⟨0x88F, 0x88F, 1⟩, ⟨0x8A0, 0x8A9, 1⟩,
   ⟨0x8AF, 0x8B0, 1⟩, ⟨0x8B3, 0x8B8, 1⟩, ⟨0x8BA, 0x8C8, 1⟩, ⟨0x1807, 0x1807, 1⟩,
   ⟨0x1820, 0x1878, 1⟩, ⟨0x1887, 0x18A8, 1⟩, ⟨0x18AA, 0x18AA, 1⟩, ⟨0xA840, 0xA871, 1⟩,
   ⟨0x10AC0, 0x10AC4, 1⟩, ⟨0x10AD3, 0x10AD6, 1⟩, ⟨0x10AD8, 0x10ADC, 1⟩, ⟨0x10ADE, 0x10AE0, 1⟩,
   ⟨0x10AEB, 0x10AEE, 1⟩, ⟨0x10B80, 0x10B80, 1⟩, ⟨0x10B82, 0x10B82, 1⟩, ⟨0x10B86, 0x10B88, 1⟩,
   ⟨0x10B8A, 0x10B8B, 1⟩, ⟨0x10B8D, 0x10B8D, 1⟩, ⟨0x10B90, 0x10B90, 1⟩, ⟨0x10BAD, 0x10BAE, 1⟩,
   ⟨0x10D01, 0x10D21, 1⟩, ⟨0x10D23, 0x10D23, 1⟩, ⟨0x10EC3, 0x10EC4, 1⟩, ⟨0x10EC6, 0x10EC7, 1⟩,
   ⟨0x10F30, 0x10F32, 1⟩, ⟨0x10F34, 0x10F44, 1⟩, ⟨0x10F51, 0x10F53, 1⟩, ⟨0x10F70, 0x10F73, 1⟩,
   ⟨0x10F76, 0x10F81, 1⟩, ⟨0x10FB0, 0x10FB0, 1⟩, ⟨0x10FB2, 0x10FB3, 1⟩, ⟨0x10FB8, 0x10FB8, 1⟩,
   ⟨0x10FBB, 0x10FBC, 1⟩, ⟨0x10FBE, 0x10FBF, 1⟩, ⟨0x10FC1, 0x10FC1, 1⟩, ⟨0x10FC4, 0x10FC4, 1⟩,
   ⟨0x10FCA, 0x10FCA, 1⟩, ⟨0x1E900, 0x1E943, 1⟩]

/-- Letters that are joined to the one before them only. -/
def joinedToPrevious : CharSet :=
  [⟨0x622, 0x625, 1⟩, ⟨0x627, 0x627, 1⟩, ⟨0x629, 0x629, 1⟩, ⟨0x62F, 0x632, 1⟩, ⟨0x648, 0x648, 1⟩,
   ⟨0x671, 0x673, 1⟩, ⟨0x675, 0x677, 1⟩, ⟨0x688, 0x699, 1⟩, ⟨0x6C0, 0x6C0, 1⟩, ⟨0x6C3, 0x6CB, 1⟩,
   ⟨0x6CD, 0x6CD, 1⟩, ⟨0x6CF, 0x6CF, 1⟩, ⟨0x6D2, 0x6D3, 1⟩, ⟨0x6D5, 0x6D5, 1⟩, ⟨0x6EE, 0x6EF, 1⟩,
   ⟨0x710, 0x710, 1⟩, ⟨0x715, 0x719, 1⟩, ⟨0x71E, 0x71E, 1⟩, ⟨0x728, 0x72C, 2⟩, ⟨0x72F, 0x72F, 1⟩,
   ⟨0x74D, 0x74D, 1⟩, ⟨0x759, 0x75B, 1⟩, ⟨0x76B, 0x76C, 1⟩, ⟨0x771, 0x771, 1⟩, ⟨0x773, 0x774, 1⟩,
   ⟨0x778, 0x779, 1⟩, ⟨0x840, 0x840, 1⟩, ⟨0x846, 0x847, 1⟩, ⟨0x849, 0x849, 1⟩, ⟨0x854, 0x854, 1⟩,
   ⟨0x856, 0x858, 1⟩, ⟨0x867, 0x867, 1⟩, ⟨0x869, 0x86A, 1⟩, ⟨0x870, 0x882, 1⟩, ⟨0x88E, 0x88E, 1⟩,
   ⟨0x8AA, 0x8AC, 1⟩, ⟨0x8AE, 0x8AE, 1⟩, ⟨0x8B1, 0x8B2, 1⟩, ⟨0x8B9, 0x8B9, 1⟩,
   ⟨0x10AC5, 0x10AC5, 1⟩, ⟨0x10AC7, 0x10AC7, 1⟩, ⟨0x10AC9, 0x10ACA, 1⟩, ⟨0x10ACE, 0x10AD2, 1⟩,
   ⟨0x10ADD, 0x10ADD, 1⟩, ⟨0x10AE1, 0x10AE1, 1⟩, ⟨0x10AE4, 0x10AE4, 1⟩, ⟨0x10AEF, 0x10AEF, 1⟩,
   ⟨0x10B81, 0x10B81, 1⟩, ⟨0x10B83, 0x10B85, 1⟩, ⟨0x10B89, 0x10B89, 1⟩, ⟨0x10B8C, 0x10B8C, 1⟩,
   ⟨0x10B8E, 0x10B8F, 1⟩, ⟨0x10B91, 0x10B91, 1⟩, ⟨0x10BA9, 0x10BAC, 1⟩, ⟨0x10D22, 0x10D22, 1⟩,
   ⟨0x10EC2, 0x10EC2, 1⟩, ⟨0x10F33, 0x10F33, 1⟩, ⟨0x10F54, 0x10F54, 1⟩, ⟨0x10F74, 0x10F75, 1⟩,
   ⟨0x10FB4, 0x10FB6, 1⟩, ⟨0x10FB9, 0x10FBA, 1⟩, ⟨0x10FBD, 0x10FBD, 1⟩, ⟨0x10FC2, 0x10FC3, 1⟩,
   ⟨0x10FC9, 0x10FC9, 1⟩]

/-- Letters that are joined to the next one only. -/
def joinedToNext : CharSet :=
  [⟨0xA872, 0xA872, 1⟩, ⟨0x10ACD, 0x10ACD, 1⟩, ⟨0x10AD7, 0x10AD7, 1⟩, ⟨0x10D00, 0x10D00, 1⟩,
   ⟨0x10FCB, 0x10FCB, 1⟩]

/-- Format characters that do not part letters. -/
def joiningFormats : CharSet :=
  [⟨0xAD, 0xAD, 1⟩, ⟨0x200B, 0x200B, 1⟩, ⟨0x2060, 0x2064, 1⟩, ⟨0x206A, 0x206F, 1⟩,
   ⟨0xFEFF, 0xFEFF, 1⟩, ⟨0x1BCA0, 0x1BCA3, 1⟩, ⟨0x1D173, 0x1D17A, 1⟩, ⟨0x1E94B, 0x1E94B, 1⟩]

/-- Whether `c` does not part its neighbours. -/
def isTransparent (c : Char) : Bool :=
  isNonspacingMark c || joiningFormats.contains c

/-- Whether `c` is joined to the letter after it. -/
def joinsNext (c : Char) : Bool :=
  joinedOnBothSides.contains c || joinedToNext.contains c

/-- Whether `c` is joined to the letter before it. -/
def joinsPrevious (c : Char) : Bool :=
  joinedOnBothSides.contains c || joinedToPrevious.contains c

end BotBindings.Text
