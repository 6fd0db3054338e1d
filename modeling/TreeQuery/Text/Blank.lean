import TreeQuery.Text.Basic

/- The blank characters of Unicode, the property White_Space. The gaps between
   tokens are a smaller set; this one decides what counts as trailing room after
   a terminator and what is cut from a line quoted in a message. -/
set_option autoImplicit false

namespace TreeQuery

def blankRanges : List (Nat × Nat) :=
  [(0x09, 0x0d), (0x20, 0x20), (0x85, 0x85), (0xa0, 0xa0), (0x1680, 0x1680), (0x2000, 0x200a),
   (0x2028, 0x2029), (0x202f, 0x202f), (0x205f, 0x205f), (0x3000, 0x3000)]

def isBlank (c : Char) : Bool := inRanges blankRanges c

def Text.trim (text : Text) : Text := Text.strip isBlank text

def Text.trimEnd (text : Text) : Text := Text.dropEndWhile isBlank text

end TreeQuery
