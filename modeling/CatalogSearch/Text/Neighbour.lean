import CatalogSearch.Text.CharWidth

/-!
Characters that join into one sign. Pictographs join with skin tones, behind joiners with each
other, and as flags in pairs of letters; letters of some scripts join with the letters after them.
The characters of a line are looked at from its end, so that a character is told what it may join
with.
-/

namespace CatalogSearch.Text

/-- What stands on the right of a character, as far as the character may join with it. Where a
joiner makes a difference, `joined` says whether there is one in front. -/
inductive Neighbour where
  | nothing
  | skinTone
  | flagLetter
  | flagLetters
  | emoji
  | joinedEmoji
  | joinedKeycap
  | joinedFlagLetter
  | joinedFlag
  | joinedLetterFlag
  | joinedTag (letters digits : Nat)
  | alef
  | lamed (joined : Bool)
  | ya (joined : Bool)
  | vowelYa
  | tifinagh (joined : Bool)
  | tifinaghJoiner
  | secondTone
  | orkhonI (joined : Bool)
  | letterBelow
  | kiratRaiE
  | kiratRaiAi
  deriving DecidableEq, Repr

namespace Neighbour

/-- Whether letters are in view that marks do not part from letters before. -/
def isLetter : Neighbour → Bool
  | alef | lamed _ | ya _ | vowelYa | tifinagh _ | tifinaghJoiner | secondTone | orkhonI _
  | letterBelow | kiratRaiE | kiratRaiAi => true
  | _ => false

/-- Whether a pictograph behind a joiner is in view that one before it can join. -/
def isJoinedEmoji : Neighbour → Bool
  | joinedEmoji | joinedKeycap => true
  | _ => false

/-- Letters with a joiner in front. -/
def join : Neighbour → Neighbour
  | lamed _ => lamed true
  | ya _ => ya true
  | tifinagh _ => tifinagh true
  | orkhonI _ => orkhonI true
  | r => r

/-- What a character is to those on its left. -/
def ofChar (c : Char) : Neighbour :=
  if c.toNat < 0x5DC then nothing
  else if c = '\u05DC' then lamed false
  else if isAlef c then alef
  else if hasFormBelow c then letterBelow
  else if c = '\u1A10' then ya false
  else if isTifinagh c then tifinagh false
  else if isSecondTone c then secondTone
  else if c = Char.ofNat 0x10C03 then orkhonI false
  else if c = Char.ofNat 0x16D67 then kiratRaiE
  else if c = Char.ofNat 0x16D68 then kiratRaiAi
  else if isFlagLetter c then flagLetter
  else if isSkinTone c then skinTone
  else if inRanges emojiRanges c.toNat then emoji
  else nothing

/-- The columns that a character adds, and what it is to those on its left, if it joins with what
stands on its right. A character that takes columns back was counted with what it joins. -/
def joinWith? (c : Char) : Neighbour → Option (Int × Neighbour)
  | alef =>
    if isLam c then some (0, nothing)
    else if isArabicTransparent c then some (0, alef)
    else none
  | lamed true => if c = '\u05D0' then some (0, nothing) else none
  | letterBelow => if c = '\u17D2' then some (-1, nothing) else none
  | ya true => if c = '\u1A17' then some (0, vowelYa) else none
  | vowelYa => if c = '\u1A15' then some (0, nothing) else none
  | tifinagh joined =>
    if c = '\u2D7F' then some (1, tifinaghJoiner)
    else if joined && isTifinagh c then some (0, nothing)
    else none
  | tifinaghJoiner => if isTifinagh c then some (-1, nothing) else none
  | secondTone => if isFirstTone c then some (0, nothing) else none
  | orkhonI true => if c = Char.ofNat 0x10C32 then some (0, nothing) else none
  | kiratRaiE =>
    if c = Char.ofNat 0x16D63 ∨ c = Char.ofNat 0x16D69 then some (0, nothing)
    else if c = Char.ofNat 0x16D67 then some (0, kiratRaiAi)
    else if c = Char.ofNat 0x16D68 then some (1, kiratRaiE)
    else none
  | kiratRaiAi => if c = Char.ofNat 0x16D63 then some (0, nothing) else none
  | skinTone =>
    if takesTone c then some (0, emoji) else if c = '\u200D' then some (0, joinedEmoji) else none
  | flagLetter => if isFlagLetter c then some (1, flagLetters) else none
  | flagLetters =>
    if isFlagLetter c then some (1, flagLetters)
    else if c = '\u200D' then some (0, joinedEmoji)
    else none
  | emoji => if c = '\u200D' then some (0, joinedEmoji) else none
  | joinedEmoji =>
    if c = '\u20E3' then some (0, joinedKeycap)
    else if isFlagLetter c then some (1, joinedFlagLetter)
    else if isSkinTone c then some (0, skinTone)
    else if c = Char.ofNat 0xE007F then some (0, joinedTag 0 0)
    else if ofChar c = emoji then some (0, emoji)
    else none
  | joinedFlagLetter => if isFlagLetter c then some (-1, joinedFlag) else none
  | joinedFlag =>
    if isFlagLetter c then some (3, joinedLetterFlag)
    else if c = '\u200D' then some (0, joinedEmoji)
    else none
  | joinedLetterFlag =>
    if isFlagLetter c then some (-1, joinedFlag)
    else if c = '\u200D' then some (0, joinedEmoji)
    else none
  | joinedTag letters digits =>
    if isTagLetter c && digits = 0 && letters < 6 then some (0, joinedTag (letters + 1) 0)
    else if isTagDigit c && digits = 0 && letters < 5 then some (0, joinedTag 0 1)
    else if isTagDigit c && 0 < digits && digits < 3 then some (0, joinedTag 0 (digits + 1))
    else if c = Char.ofNat 0x1F3F4 && (3 ≤ letters || digits = 3) then some (0, emoji)
    else none
  | _ => none

end Neighbour

end CatalogSearch.Text
