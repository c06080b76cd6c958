import CatalogSearch.Text.CodePoint
import CatalogSearch.Text.EmojiTable
import CatalogSearch.Text.WidthTable

/-!
The number of columns that a character takes on a screen by itself, and the classes of characters
that decide whether it joins with others.
-/

namespace CatalogSearch.Text

/-- Whether a character takes no column by itself. -/
def isZeroWidth (c : Char) : Bool := inRanges zeroWidthRanges c.toNat

/-- The number of columns that a character takes by itself. -/
def charWidth (c : Char) : Nat :=
  if c.toNat < 0x7F then 1
  else if isZeroWidth c then 0
  else if c = '\u17D8' then 3
  else if inRanges wideRanges c.toNat then 2
  else 1

/-- Whether a character can be shown as a pictograph in colour by a selector behind it. -/
def isSelectable (c : Char) : Bool := inRanges selectableRanges c.toNat

/-- Whether a pictograph in colour can be shown as a narrow sign by a selector behind it. -/
def isPlainable (c : Char) : Bool := inRanges plainableRanges c.toNat

def takesTone (c : Char) : Bool := inRanges tonedRanges c.toNat

def isFlagLetter (c : Char) : Bool := inRanges [(0x1F1E6, 0x1F1FF)] c.toNat

def isSkinTone (c : Char) : Bool := inRanges [(0x1F3FB, 0x1F3FF)] c.toNat

/-- Whether a character is a letter inside a flag of a region. -/
def isTagLetter (c : Char) : Bool := inRanges [(0xE0061, 0xE007A)] c.toNat

/-- Whether a character is a digit inside a flag of a region. -/
def isTagDigit (c : Char) : Bool := inRanges [(0xE0030, 0xE0039)] c.toNat

/-- Whether a character is a quotation mark that has a wide form. -/
def isQuotation (c : Char) : Bool := inRanges [(0x2018, 0x2019), (0x201C, 0x201D)] c.toNat

def isAlef (c : Char) : Bool :=
  inRanges [(0x622, 0x623), (0x625, 0x625), (0x627, 0x627), (0x671, 0x673), (0x675, 0x675),
    (0x773, 0x774), (0x870, 0x882)] c.toNat

def isLam (c : Char) : Bool :=
  inRanges [(0x644, 0x644), (0x6B5, 0x6B8), (0x76A, 0x76A), (0x8A6, 0x8A6), (0x8C7, 0x8C7)]
    c.toNat

/-- Whether a character may stand between a lam and an alef that join. -/
def isArabicTransparent (c : Char) : Bool := isZeroWidth c && !inRanges partingRanges c.toNat

/-- The Khmer letters that have a form below another letter. -/
def hasFormBelow (c : Char) : Bool :=
  inRanges [(0x1780, 0x1782), (0x1784, 0x1787), (0x1789, 0x178C), (0x178E, 0x1793),
    (0x1795, 0x1798), (0x179B, 0x179D), (0x17A0, 0x17A0), (0x17A2, 0x17A2), (0x17A7, 0x17A7),
    (0x17AB, 0x17AC), (0x17AF, 0x17AF)] c.toNat

def isTifinagh (c : Char) : Bool := inRanges [(0x2D31, 0x2D65), (0x2D6F, 0x2D6F)] c.toNat

/-- The Lisu tone letters that may stand first in a combination. -/
def isFirstTone (c : Char) : Bool := inRanges [(0xA4F8, 0xA4FB)] c.toNat

/-- The Lisu tone letters that may stand second in a combination. -/
def isSecondTone (c : Char) : Bool := inRanges [(0xA4FC, 0xA4FD)] c.toNat

/-- Whether a character may stand inside all joined letters but the Arabic ones: marks that are
ignored in display. -/
def isTransparent (c : Char) : Bool :=
  inRanges [(0x34F, 0x34F), (0x17B4, 0x17B5), (0x180B, 0x180D), (0x180F, 0x180F), (0xFE00, 0xFE0F),
    (0xE0100, 0xE01EF)] c.toNat

end CatalogSearch.Text
