/-
How the columns of a character depend on what follows it.

Selectors, skin tones, joiners and flags make one picture of several characters, and some
scripts draw letters together.  What counts is always to the right, so that a text is read
from its end: each character gives its columns, which may take back a column that was
counted before it, and what the character on its left has to know.
-/
import IdentityMap.Text.Width.Picture
import IdentityMap.Text.Width.Script

namespace IdentityMap.Width

/-- A character that asks for one form of the character before it. -/
inductive Selector where
  /-- A quotation mark of two columns. -/
  | wide
  /-- Text in place of a picture. -/
  | text
  /-- A picture in place of text. -/
  | picture
deriving DecidableEq, Repr

/-- The selector that a character is. -/
def Selector.ofChar? (c : Char) : Option Selector :=
  match c with
  | '\ufe01' => some .wide
  | '\ufe0e' => some .text
  | '\ufe0f' => some .picture
  | _ => none

/-- The end of letters that are drawn together. -/
inductive Ligature where
  | alef
  | lamed
  | joinedLamed
  /-- The Buginese letter ya. -/
  | ya
  | joinedYa
  /-- A vowel sign that is joined with a ya. -/
  | vowelAndYa
  | tifinagh
  | joinedTifinagh
  /-- The sign that joins two consonants, and the second of them. -/
  | tifinaghJoiner
  /-- The second tone letter of a Lisu pair. -/
  | lisuTone
  /-- The Old Turkic letter i. -/
  | turkicI
  | joinedTurkicI
  /-- A Khmer letter that fits below another one. -/
  | khmer
deriving DecidableEq, Repr

/-- The same end with a joiner before it. -/
def Ligature.join : Ligature → Ligature
  | .lamed => .joinedLamed
  | .ya => .joinedYa
  | .tifinagh => .joinedTifinagh
  | .turkicI => .joinedTurkicI
  | other => other

/-- What stands to the right of a character. -/
inductive Context where
  /-- Nothing that the character depends on. -/
  | plain
  | ligature (of : Ligature)
  /-- The Kirat Rai vowel sign e. -/
  | vowelE
  /-- The Kirat Rai vowel sign ai, in one or two characters. -/
  | vowelAi
  | picture
  | tone
  /-- The last letter of flags. -/
  | flagLetter
  /-- Two or more letters of flags. -/
  | flagLetters
  /-- A joiner and a picture. -/
  | joined
  /-- A keycap that is joined with a picture. -/
  | joinedKeycap
  /-- One flag letter that is joined with a picture. -/
  | joinedFlagLetter
  /-- An even number of them. -/
  | joinedFlagPairs
  /-- A larger odd number of them. -/
  | joinedFlagOdd
  /-- The end of a flag that is written with so many tag letters, joined with a picture. -/
  | joinedTagLetters (count : Nat)
  /-- The same with so many tag digits before the letters. -/
  | joinedTagDigits (count : Nat)
deriving DecidableEq, Repr

/-- What stands to the right of a character, and the selector right behind it. -/
structure Following where
  context : Context
  selector : Option Selector := none
deriving DecidableEq, Repr

/-- The end of a text. -/
def Following.nothing : Following :=
  { context := .plain }

/-- The columns of a character, and what it is for the one on its left. -/
abbrev Step := Int × Following

/-- What remains of the context behind a selector.  Letters stay joined across it; of
pictures only a joiner or a keycap can be continued. -/
def Context.behind (context : Context) (selector : Selector) : Context :=
  match context, selector with
  | .ligature l, _ => .ligature l
  | .joined, .picture => .joined
  | .joinedKeycap, .picture => .joinedKeycap
  | _, _ => .plain

/-- Columns and a context, with no selector. -/
def part (columns : Int) (context : Context) : Step :=
  (columns, { context })

/-- A character by itself. -/
def alone (c : Char) : Step :=
  if isAlef c then part 1 (.ligature .alef)
  else if isKhmerSubscript c then part 1 (.ligature .khmer)
  else if isTifinaghConsonant c then part 1 (.ligature .tifinagh)
  else if isLisuSecondTone c then part 1 (.ligature .lisuTone)
  else if isFlagLetter c then part 1 .flagLetter
  else if isTone c then part 2 .tone
  else if isPicture c then part 2 .picture
  else if c.toNat == 0x5DC then part 1 (.ligature .lamed)
  else if c.toNat == 0x1A10 then part 1 (.ligature .ya)
  else if c.toNat == 0x10C03 then part 1 (.ligature .turkicI)
  else if c.toNat == 0x16D67 then part 1 .vowelE
  else if c.toNat == 0x16D68 then part 1 .vowelAi
  else part (ofChar c) .plain

/-- The joiner, which takes no column. -/
def joiner : Char := '\u200d'

/-- A character before the end of letters that are drawn together. -/
def beforeLigature? (l : Ligature) (c : Char) : Option Step :=
  match l with
  | .alef =>
    if isLam c then part 0 .plain
    else if isJoinedAcross c then part 0 (.ligature .alef)
    else none
  | l =>
    if c == joiner then part 0 (.ligature l.join)
    else if isInvisibleMark c then part 0 (.ligature l)
    else match l, c.toNat with
      | .khmer, 0x17D2 => part (-1) .plain
      | .joinedLamed, 0x5D0 => part 0 .plain
      | .joinedYa, 0x1A17 => part 0 (.ligature .vowelAndYa)
      | .vowelAndYa, 0x1A15 => part 0 .plain
      | .joinedTurkicI, 0x10C32 => part 0 .plain
      | .tifinagh, 0x2D7F | .joinedTifinagh, 0x2D7F => part 1 (.ligature .tifinaghJoiner)
      | .joinedTifinagh, _ => if isTifinaghConsonant c then part 0 .plain else none
      | .tifinaghJoiner, _ => if isTifinaghConsonant c then part (-1) .plain else none
      | .lisuTone, _ => if isLisuFirstTone c then part 0 .plain else none
      | _, _ => none

/-- Tag letters, which spell the region of a flag. -/
def isTagLetter (c : Char) : Bool :=
  inRanges [(0xE0061, 0xE007A)] c

def isTagDigit (c : Char) : Bool :=
  inRanges [(0xE0030, 0xE0039)] c

/-- The flag that tags tell apart. -/
def isTaggedFlag (c : Char) : Bool :=
  c.toNat == 0x1F3F4

/-- A character before a joiner and a picture. -/
def beforeJoined? (c : Char) : Option Step :=
  if c.toNat == 0x20E3 then part 0 .joinedKeycap
  else if isFlagLetter c then part 1 .joinedFlagLetter
  else if isTone c then part 0 .tone
  else if c.toNat == 0xE007F then part 0 (.joinedTagLetters 0)
  else if isPicture c then part 0 .picture
  else none

/-- A character before a Kirat Rai vowel.  Of the vowels that are written with one
character or with several, each spelling takes one column. -/
def beforeVowel? (context : Context) (c : Char) : Option Step :=
  match context, c.toNat with
  | .vowelE, 0x16D63 => part 0 .plain
  | .vowelE, 0x16D67 => part 0 .vowelAi
  | .vowelE, 0x16D68 => part 1 .vowelE
  | .vowelE, 0x16D69 => part 0 .plain
  | .vowelAi, 0x16D63 => part 0 .plain
  | _, _ => none

/-- A flag letter before flag letters.  Joined with a picture, two of them are one picture. -/
def beforeFlag? (context : Context) (c : Char) : Option Step :=
  if !isFlagLetter c then none
  else match context with
    | .flagLetter | .flagLetters => part 1 .flagLetters
    | .joinedFlagLetter | .joinedFlagOdd => part (-1) .joinedFlagPairs
    | .joinedFlagPairs => part 3 .joinedFlagOdd
    | _ => none

/-- A character before tags that are joined with a picture.  Three to six letters are a
region, and so are three digits with letters behind them. -/
def beforeTags? (context : Context) (c : Char) : Option Step :=
  match context with
  | .joinedTagLetters n =>
    if isTagLetter c && n < 6 then part 0 (.joinedTagLetters (n + 1))
    else if isTagDigit c && n < 5 then part 0 (.joinedTagDigits 1)
    else if isTaggedFlag c && 3 ≤ n then part 0 .picture
    else none
  | .joinedTagDigits n =>
    if isTagDigit c && n < 3 then part 0 (.joinedTagDigits (n + 1))
    else if isTaggedFlag c && n == 3 then part 0 .picture
    else none
  | _ => none

/-- What a joiner can join with what is on its left. -/
def isJoinable : Context → Bool
  | .picture | .tone | .flagLetters | .joinedFlagPairs | .joinedFlagOdd => true
  | _ => false

/-- A character that what stands to the right of it makes part of something larger. -/
def within? (context : Context) (c : Char) : Option Step :=
  if isJoinable context && c == joiner then part 0 .joined
  else match context with
    | .plain | .picture | .joinedKeycap => none
    | .tone => if isToneable c then part 0 .picture else none
    | .ligature l => beforeLigature? l c
    | .joined => beforeJoined? c
    | .vowelE | .vowelAi => beforeVowel? context c
    | .flagLetter | .flagLetters | .joinedFlagLetter | .joinedFlagPairs | .joinedFlagOdd =>
      beforeFlag? context c
    | .joinedTagLetters _ | .joinedTagDigits _ => beforeTags? context c

/-- A character of which a selector picks one of the forms that it has. -/
def selected? (f : Following) (c : Char) : Option Step :=
  match f.selector with
  | some .picture =>
    if !isSelectable c then none
    else some (if f.context = .joined ∨ f.context = .joinedKeycap then 0 else 2,
      { context := .picture })
  | some .text => if isTextual c then some (1, .nothing) else none
  | some .wide => if isWideableQuote c then some (2, .nothing) else none
  | none => none

/-- The context of a character on which the selector behind it has no effect. -/
def Following.unselected (f : Following) : Context :=
  match f.selector, f.context with
  | none, context => context
  | some _, .ligature l => .ligature l
  | some _, _ => .plain

/-- The columns of a character, and what it is for the one on its left. -/
def step (f : Following) (c : Char) : Step :=
  match selected? f c, Selector.ofChar? c with
  | some part, _ => part
  | none, some selector =>
    (0, { context := f.unselected.behind selector, selector := some selector })
  | none, none =>
    if c.toNat ≤ 0xA0 then (1, .nothing) else (within? f.unselected c).getD (alone c)

end IdentityMap.Width
