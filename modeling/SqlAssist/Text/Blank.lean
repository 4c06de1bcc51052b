/-!
# Blank characters

The blank (white-space) characters of the Unicode database: the ASCII controls tab to
carriage return, the four information separators `U+001C` to `U+001F`, the space, next line
`U+0085`, no-break space, ogham space mark, the spaces `U+2000` to `U+200A`, the line and
paragraph separators, narrow no-break space, medium mathematical space and ideographic
space.  Zero width space `U+200B` and the byte order mark `U+FEFF` are not blank.
-/

namespace SqlAssist.Text

/-- Whether a character is blank: one of the 29 white-space code points. -/
def isBlank (c : Char) : Bool :=
  let n := c.toNat
  (9 ≤ n ∧ n ≤ 13) ∨ (0x1C ≤ n ∧ n ≤ 0x20) ∨ n = 0x85 ∨ n = 0xA0 ∨ n = 0x1680 ∨
    (0x2000 ≤ n ∧ n ≤ 0x200A) ∨ n = 0x2028 ∨ n = 0x2029 ∨ n = 0x202F ∨ n = 0x205F ∨
    n = 0x3000

end SqlAssist.Text
