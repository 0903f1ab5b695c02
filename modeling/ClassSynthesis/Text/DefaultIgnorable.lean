import ClassSynthesis.Text.Ranges

/-!
# Characters that are ignored in display

The Unicode property `Default_Ignorable_Code_Point`: characters that steer the display of their
neighbours or fill an empty place, and that leave no trace themselves. Joiners, direction marks and
variation selectors are among them, and so are the Hangul fillers, which are letters by category.
-/

namespace ClassSynthesis.Text

/-- Code points with the property, in increasing order. -/
def defaultIgnorableRanges : Ranges := [
    (0xAD, 0xAD), (0x034F, 0x034F), (0x061C, 0x061C), (0x115F, 0x1160), (0x17B4, 0x17B5),
    (0x180B, 0x180F), (0x200B, 0x200F), (0x202A, 0x202E), (0x2060, 0x206F), (0x3164, 0x3164),
    (0xFE00, 0xFE0F), (0xFEFF, 0xFEFF), (0xFFA0, 0xFFA0), (0xFFF0, 0xFFF8), (0x1BCA0, 0x1BCA3),
    (0x1D173, 0x1D17A), (0xE0000, 0xE0FFF)]

/-- The character leaves no trace where it cannot have its effect. -/
def isDefaultIgnorable (c : Char) : Bool := defaultIgnorableRanges.contains c

end ClassSynthesis.Text
